import SignOn.Proofs.Engine.SerialOrder

/-!
# Logins at once

Logins at providers that are resolved side by side come to what they come to one after another, if
none is disturbed between its lookup and its save (`Resolvers.Reached.serialises`).  Otherwise one of
them can save a record that is made of what another has replaced since, and what that one has sent is
lost (`Resolvers.not_serialises_inStep`).

What becomes of single records is told by what one save can do to them (`Resolvers.Saves`).  Every
identity that is stored stays so.  While it keeps its account, its record loses no text except to one
that is sent later (`Resolvers.Kept`).  Its latest login does not go back if none of its logins
overtakes another one between reading the clock and saving the record (`Resolvers.InTurn`).
-/

namespace SignOn.Engine

set_option autoImplicit false

open Operation Store

namespace Resolvers

open Crowd (own own_cons_self own_cons_of_ne mem_own)

/-! ## Records -/

section Records

variable {ι : Type} {callbacks : ι → Callback} {events : List (ι × Moment)} {event : ι × Moment}
  {id : UserId} {former current : User}

/-- A field has the value it had, or one that the provider has sent for a login of the identity whose
record was saved among some events. -/
def FieldKept (callbacks : ι → Callback) (id : UserId) (events : List (ι × Moment))
    (field : Profile → Option String) (former current : Option String) : Prop :=
  current = former ∨ ∃ who user text, (who, .answered (.saveUser user) ()) ∈ events ∧ user.id = id ∧
    (∃ profile, Profile.ofPayload (callbacks who).provider (callbacks who).payload = .ok profile ∧
      field profile = some text) ∧ current = some text

/-- The record of an identity keeps its account and when it was created through some events, and
loses no text except to one that is sent later. -/
structure Kept (callbacks : ι → Callback) (id : UserId) (events : List (ι × Moment))
    (former current : User) : Prop where
  account : current.account = former.account
  createdAt : current.createdAt = former.createdAt
  displayName : FieldKept callbacks id events Profile.nickname former.displayName current.displayName
  verifiedIdentifier : FieldKept callbacks id events Profile.verifiedIdentifier
    former.verifiedIdentifier current.verifiedIdentifier

theorem FieldKept.cons {field : Profile → Option String} {before now : Option String}
    (kept : FieldKept callbacks id events field before now) :
    FieldKept callbacks id (event :: events) field before now :=
  kept.imp_right fun ⟨who, user, text, member, rest⟩ =>
    ⟨who, user, text, List.mem_cons_of_mem event member, rest⟩

theorem Kept.cons (kept : Kept callbacks id events former current) :
    Kept callbacks id (event :: events) former current :=
  ⟨kept.account, kept.createdAt, kept.displayName.cons, kept.verifiedIdentifier.cons⟩

/-- What a login makes of the record of a stored identity by what it saves: the identity is another
one, or its record is refreshed, or it moves to another account. -/
inductive Saves (callback : Callback) (now : Instant) (id : UserId) (former user : User) :
    User → Prop where
  | other (differs : user.id ≠ id) : Saves callback now id former user former
  | refreshed (named : user.id = id) (profile : Profile)
      (parsed : Profile.ofPayload callback.provider callback.payload = .ok profile)
      (same : user = former.recordLogin profile.nickname profile.verifiedIdentifier now) :
      Saves callback now id former user user
  | moved (named : user.id = id) (moves : user.account ≠ former.account) :
      Saves callback now id former user user

theorem exists_saves {callback : Callback} {world : World} {now : Instant} {user : User}
    (inverse : world.users.Inverse)
    (fit : recordOf callback now (world.users.find? callback.provider callback.account) = .ok user)
    (held : world.users.byId.get? id = some former) :
    ∃ current, (world.users.save user).byId.get? id = some current ∧
      Saves callback now id former user current := by
  let login : World := { world with clock := now }
  have tables : login.users.Inverse := inverse
  have resolved : resolvedRecord callback login = .ok user := fit
  by_cases same : user.id = id
  · subst same
    refine ⟨user, inverse.get?_byId_save_eq_some_iff.2 (Or.inl ⟨rfl, rfl⟩), ?_⟩
    obtain ⟨profile, parsed, ⟨owner, known, refreshed⟩ | ⟨unknown, email, _, created⟩⟩ :=
      resolvedRecord_cases resolved
    · have found := (tables.find?_eq_some_iff.1 known).1
      have named : owner.id = user.id := by rw [refreshed]; rfl
      rw [named] at found
      obtain rfl := Option.some.inj (found.symm.trans held)
      exact .refreshed rfl profile parsed refreshed
    · refine .moved rfl fun stays => ?_
      obtain ⟨named, _⟩ := inverse.record held
      have owned : Users.accountOf former = (callback.provider, callback.account) := by
        rw [Users.accountOf, named, ← stays, created]
        rfl
      rw [← named] at held
      cases unknown.symm.trans (tables.find?_eq_some_iff.2 ⟨held, owned⟩)
  · have unshared : Users.accountOf user ≠ Users.accountOf former := by
      intro shared
      have leads := (tables.record held).2
      rw [← shared] at leads
      exact same (id_eq_of_resolvedRecord tables resolved leads).symm
    exact ⟨former, inverse.get?_byId_save_eq_some_iff.2 (Or.inr ⟨same, unshared, held⟩),
      .other same⟩

theorem FieldKept.or {field : Profile → Option String} {profile : Profile} {who : ι} {user : User}
    {before now : Option String} (kept : FieldKept callbacks id events field before now)
    (named : user.id = id)
    (parsed : Profile.ofPayload (callbacks who).provider (callbacks who).payload = .ok profile) :
    FieldKept callbacks id ((who, .answered (.saveUser user) ()) :: events) field before
      ((field profile).or now) := by
  cases sent : field profile with
  | none => exact kept.cons
  | some text =>
    exact Or.inr ⟨who, user, text, List.mem_cons_self, named, ⟨profile, parsed, sent⟩, rfl⟩

/-- What is known of a record stays known through a save that leaves the identity its account. -/
theorem Kept.saves {who : ι} {user middle : User} {now : Instant}
    (kept : Kept callbacks id events former middle)
    (saves : Saves (callbacks who) now id middle user current)
    (accounts : user.id = id → user.account = former.account) :
    Kept callbacks id ((who, .answered (.saveUser user) ()) :: events) former current := by
  cases saves with
  | other differs => exact kept.cons
  | refreshed named profile parsed same =>
    subst same
    exact ⟨kept.account, kept.createdAt, kept.displayName.or named parsed,
      kept.verifiedIdentifier.or named parsed⟩
  | moved named moves => exact absurd ((accounts named).trans kept.account.symm) moves

theorem Saves.lastLoginAt_le {callback : Callback} {user : User} {now : Instant}
    (saves : Saves callback now id former user current)
    (told : user.lastLoginAt = .ofInstant now)
    (timely : user.id = id → former.lastLoginAt.instant ≤ now) :
    former.lastLoginAt.instant ≤ current.lastLoginAt.instant := by
  cases saves with
  | other differs => exact Int.le_refl _
  | refreshed named _ _ _ | moved named _ =>
    rw [told]
    exact timely named

end Records

variable {ι : Type} [DecidableEq ι] {callbacks : ι → Callback} {start : World}
  {resolvers next : Resolvers ι}

/-! ## Latest logins -/

/-- No record tells of a login that is still to come. -/
def IsDated (world : World) : Prop :=
  ∀ id record, world.users.byId.get? id = some record → record.lastLoginAt.instant ≤ world.clock

theorem clock_mem_history {history : List (ι × Moment)} {who : ι} {moment : Moment} {now : Instant}
    (did : own who history = [moment, .clock now]) : (who, .clock now) ∈ history := by
  rw [← mem_own, did]
  exact List.mem_cons_of_mem moment List.mem_cons_self

theorem Reached.reading_le (reached : Reached callbacks start resolvers) {who : ι} {now : Instant}
    (read : (who, .clock now) ∈ resolvers.history) : now ≤ resolvers.world.clock := by
  induction reached with
  | refl => cases read
  | @tail resolvers next reached step ih =>
    cases Reached.move reached step with
    | wait ordered => exact Int.le_trans (ih read) ordered
    | @act other moment world left underWay acts =>
      dsimp only [after] at read ⊢
      rw [acts.clock]
      rcases List.mem_cons.1 read with same | earlier
      · cases same
        obtain ⟨_, told, _⟩ := acts.of_reads rfl
        cases told
        exact Int.le_refl _
      · exact ih earlier

theorem Reached.isDated (inverse : start.users.Inverse) (dated : IsDated start)
    (reached : Reached callbacks start resolvers) : IsDated resolvers.world := by
  induction reached with
  | refl => exact dated
  | @tail resolvers next reached step ih =>
    cases Reached.move reached step with
    | wait ordered => exact fun id record held => Int.le_trans (ih id record held) ordered
    | @act who moment world left underWay acts =>
      intro id record held
      dsimp only [after] at held ⊢
      rw [acts.clock]
      cases saves : moment.saved? with
      | none =>
        rw [acts.users_of_none saves] at held
        exact ih id record held
      | some user =>
        rw [acts.users_of_some saves,
          (Reached.inverse inverse reached).get?_byId_save_eq_some_iff] at held
        rcases held with ⟨_, rfl⟩ | ⟨_, _, held⟩
        · obtain ⟨_, now, existing, did, fit⟩ := acts.of_saves saves
          rw [lastLoginAt_of_recordOf fit]
          exact Reached.reading_le reached (clock_mem_history did)
        · exact ih id record held

/-- An identity that has not been saved since the clock was read has no later login. -/
theorem Reached.lastLoginAt_le (inverse : start.users.Inverse) (dated : IsDated start)
    (reached : Reached callbacks start resolvers) {who : ι} {now : Instant} {id : UserId}
    {record : User} (read : (who, .clock now) ∈ resolvers.history)
    (spared : ∀ user ∈ saved (since Moment.isReading who resolvers.history), user.id ≠ id)
    (held : resolvers.world.users.byId.get? id = some record) :
    record.lastLoginAt.instant ≤ now := by
  induction reached with
  | refl => cases read
  | @tail resolvers next reached step ih =>
    cases Reached.move reached step with
    | wait ordered => exact ih read spared held
    | @act other moment world left underWay acts =>
      dsimp only [after] at read spared held
      rcases List.mem_cons.1 read with same | earlier
      · cases same
        obtain ⟨_, told, rfl⟩ := acts.of_reads rfl
        cases told
        exact Reached.isDated inverse dated reached id record held
      · have longer : since Moment.isReading who ((other, moment) :: resolvers.history) =
            (other, moment) :: since Moment.isReading who resolvers.history := by
          by_cases same : other = who
          · subst same
            refine since_cons_of_not (Bool.eq_false_iff.2 fun reads => ?_)
            rw [← mem_own, (acts.of_reads reads).1] at earlier
            cases earlier
          · exact since_cons_of_ne same
        rw [longer] at spared
        have spared' : ∀ user ∈ saved (since Moment.isReading who resolvers.history),
            user.id ≠ id := fun user member => spared user (mem_saved_cons.2 (Or.inr member))
        cases saves : moment.saved? with
        | none =>
          rw [acts.users_of_none saves] at held
          exact ih earlier spared' held
        | some user =>
          rw [acts.users_of_some saves,
            (Reached.inverse inverse reached).get?_byId_save_eq_some_iff] at held
          rcases held with ⟨named, _⟩ | ⟨_, _, held⟩
          · exact absurd named (spared user (mem_saved_cons.2 (Or.inl saves)))
          · exact ih earlier spared' held

/-! ## Records through the steps -/

/-- What has become of the record of an identity through some events, at the end of a history. -/
structure Follows (callbacks : ι → Callback) (start : World) (id : UserId)
    (events history : List (ι × Moment)) (former current : User) : Prop where
  kept : (∀ user ∈ saved events, user.id = id → user.account = former.account) →
    Kept callbacks id events former current
  ordered : IsDated start → InTurn history → former.lastLoginAt.instant ≤ current.lastLoginAt.instant

theorem Reached.follows (inverse : start.users.Inverse)
    (reached : Reached callbacks start resolvers) (steps : Steps resolvers next)
    (undisturbed : Undisturbed next.history) :
    ∃ events, next.history = events ++ resolvers.history ∧
      ∀ id former, resolvers.world.users.byId.get? id = some former →
        ∃ current, next.world.users.byId.get? id = some current ∧
          Follows callbacks start id events next.history former current := by
  induction steps with
  | refl =>
    refine ⟨[], rfl, fun id former held => ⟨former, held, fun _ => ?_, fun _ _ => Int.le_refl _⟩⟩
    exact ⟨rfl, rfl, Or.inl rfl, Or.inl rfl⟩
  | @tail middle next steps step ih =>
    have arrived : Reached callbacks start middle := reached.trans steps
    cases arrived.move step with
    | wait ordered => exact ih undisturbed
    | @act who moment world left underWay acts =>
      obtain ⟨events, history, follows⟩ := ih undisturbed.2
      refine ⟨(who, moment) :: events, congrArg (List.cons _) history, fun id former held => ?_⟩
      obtain ⟨current, heldThen, follows⟩ := follows id former held
      dsimp only [after]
      cases saves : moment.saved? with
      | none =>
        rw [acts.users_of_none saves]
        refine ⟨current, heldThen, fun same => ?_, fun dated turns => follows.ordered dated turns.2⟩
        exact (follows.kept fun user member => same user (mem_saved_cons.2 (Or.inr member))).cons
      | some user =>
        obtain ⟨rfl, now, existing, did, fit⟩ := acts.of_saves saves
        have read : (who, .clock now) ∈ middle.history := clock_mem_history did
        rw [← arrived.find?_of_undisturbed inverse undisturbed saves did] at fit
        obtain ⟨latest, heldNow, becomes⟩ := exists_saves (arrived.inverse inverse) fit heldThen
        rw [acts.users_of_some saves]
        refine ⟨latest, heldNow, fun accounts => ?_, fun dated turns => ?_⟩
        · have kept := follows.kept fun other member =>
            accounts other (mem_saved_cons.2 (Or.inr member))
          exact kept.saves becomes (accounts user (mem_saved_cons.2 (Or.inl rfl)))
        · have before := follows.ordered dated turns.2
          refine Int.le_trans before (becomes.lastLoginAt_le (lastLoginAt_of_recordOf fit) ?_)
          intro named
          exact arrived.lastLoginAt_le inverse dated read (named ▸ turns.1 user rfl) heldThen

/-- **Logins that are resolved side by side come to what they come to one after another**, as long as
no resolver is disturbed between its lookup and its save.  Through any steps every identity that is
stored stays so, and its record loses no text except to one that is sent later, unless it moves to
another account; nor does its latest login go back, unless a resolver is overtaken between its
reading of the clock and its save. -/
theorem Reached.serialises [Fintype ι] (inverse : start.users.Inverse)
    (reached : Reached callbacks start resolvers) (steps : Steps resolvers next)
    (undisturbed : Undisturbed next.history) :
    (∃ turns, Serialises callbacks start next turns) ∧
    ∃ events, next.history = events ++ resolvers.history ∧
      ∀ id former, resolvers.world.users.byId.get? id = some former →
        ∃ current, next.world.users.byId.get? id = some current ∧
          Follows callbacks start id events next.history former current := by
  have arrived : Reached callbacks start next := reached.trans steps
  exact ⟨arrived.exists_serialises inverse undisturbed,
    reached.follows inverse steps undisturbed⟩

end Resolvers

/-! ## Two logins -/

namespace Sample

open Resolvers (Resolution initial takeTurn Undisturbed InTurn Always saved since)

/-- Logins with the accounts of two members. -/
def strangers : Fin 2 → Callback
  | 0 => ⟨.kakao, "1", payload 1 [("nickname", .string "kim")] []⟩
  | 1 => ⟨.kakao, "2", .object [("id", .number (.integer 2)),
      ("kakao_account", .object [("email", .string "m@x.com")])]⟩

def namedRecord : User := .create member "1" (some "kim") none site.clock

def guestRecord : User := .create ⟨"m@x.com", .kakao⟩ "2" none none site.clock

/-- Both have looked up their accounts, and one has saved its record. -/
def halfway : Resolvers (Fin 2) :=
  [0, 1, 0, 1, 0].foldl takeTurn (initial strangers site)

theorem history_halfway : (halfway.takeTurn 1).history =
    [(1, .answered (.saveUser guestRecord) ()), (0, .answered (.saveUser namedRecord) ()),
      (1, .answered (lookup (strangers 1)) none), (0, .answered (lookup (strangers 0)) none),
      (1, .clock site.clock), (0, .clock site.clock)] := rfl

theorem undisturbed_halfway : Undisturbed (halfway.takeTurn 1).history := by
  rw [history_halfway]
  simp only [Undisturbed, Always, saved, since, Moment.saved?, Moment.isLookup, Option.isSome_none,
    Bool.false_eq_true, false_implies, and_true]
  constructor
  · intro _ provider account existing looked record member
    obtain ⟨⟨rfl, rfl⟩, rfl⟩ : (provider = .kakao ∧ account = "2") ∧ existing = none := by
      simpa [lookup, strangers] using looked
    obtain rfl := List.mem_singleton.1 member
    refine ⟨by decide, ?_⟩
    rintro former ⟨⟩
  · intro _ provider account existing looked record member
    cases member

theorem inTurn_halfway : InTurn (halfway.takeTurn 1).history := by
  rw [history_halfway]
  simp [InTurn, Always, saved, since, Moment.saved?, Moment.isReading, namedRecord, User.create,
    guestRecord, member]

/-- Two logins with the account of the member, one with a name and one with a verified identifier. -/
def twice : Fin 2 → Callback
  | 0 => ⟨.kakao, "1", payload 1 [("nickname", .string "kim")] []⟩
  | 1 => ⟨.kakao, "1", payload 1 [] [("ci", .string "ci-1")]⟩

/-- Both are resolved in step with each other. -/
def inStep : Resolvers (Fin 2) :=
  [0, 1, 0, 1, 0, 1].foldl takeTurn (initial twice site)

theorem clock_inStep (who : Fin 2) : (who, .clock site.clock) ∈ inStep.history := by
  match who with
  | 0 => exact .tail _ (.tail _ (.tail _ (.tail _ (.tail _ (.head _)))))
  | 1 => exact .tail _ (.tail _ (.tail _ (.tail _ (.head _))))

/-- Whoever comes first, one after the other they leave a record with a name. -/
theorem displayName_twice (who : Fin 2) :
    (((Arrival.resolveIn ⟨site.clock, twice (1 - who)⟩
      (Arrival.resolveIn ⟨site.clock, twice who⟩ site).2).2.users.byId.get? member).bind
        User.displayName) = some "kim" := by
  match who with
  | 0 => rfl
  | 1 => rfl

/-- Of two who take their turns, one takes the first turn and the other one the latest. -/
theorem exists_eq_pair {turns : List (Resolution (Fin 2))} (once : (turns.map Resolution.who).Nodup)
    (everyone : ∀ who, who ∈ turns.map Resolution.who) :
    ∃ latest first, turns = [latest, first] ∧ latest.who = 1 - first.who := by
  match turns with
  | [] => cases everyone 0
  | [only] =>
    have zero := List.mem_singleton.1 (everyone 0)
    have one := List.mem_singleton.1 (everyone 1)
    cases zero.trans one.symm
  | [latest, first] =>
    have differs : latest.who ≠ first.who := by simpa using once
    have other : ∀ latest first : Fin 2, latest ≠ first → latest = 1 - first := by decide
    exact ⟨latest, first, rfl, other _ _ differs⟩
  | latest :: second :: first :: rest =>
    have none : ∀ latest second first : Fin 2,
        latest ≠ second → latest ≠ first → second ≠ first → False := by decide
    simp only [List.map_cons, List.nodup_cons, List.mem_cons, not_or] at once
    exact (none _ _ _ once.1.1 once.1.2.1 once.2.1.1).elim

end Sample

namespace Resolvers

/-- Logins with the accounts of two members, in step with each other, come to what they come to one
after another; the name that the first has saved stays, and so does the time of its login. -/
theorem Reached.serialises_strangers :
    (∃ turns, Serialises Sample.strangers Sample.site (Sample.halfway.takeTurn 1) turns) ∧
    ∃ current, (Sample.halfway.takeTurn 1).world.users.byId.get? Sample.member = some current ∧
      current.displayName = some "kim" ∧
      Sample.namedRecord.lastLoginAt.instant ≤ current.lastLoginAt.instant := by
  obtain ⟨serialised, events, history, follows⟩ :=
    Reached.serialises Users.inverse_empty (steps_takeTurns (initial Sample.strangers Sample.site) _)
      (steps_takeTurn Sample.halfway 1) Sample.undisturbed_halfway
  refine ⟨serialised, ?_⟩
  obtain ⟨current, held, follows⟩ := follows Sample.member Sample.namedRecord rfl
  obtain rfl : [(1, .answered (.saveUser Sample.guestRecord) ())] = events :=
    List.append_cancel_right history
  have others : ∀ user ∈ saved [((1 : Fin 2), .answered (.saveUser Sample.guestRecord) ())],
      user.id ≠ Sample.member := List.forall_mem_singleton.2 (by decide)
  have kept := follows.kept fun user member named => absurd named (others user member)
  refine ⟨current, held, ?_, follows.ordered nofun Sample.inTurn_halfway⟩
  rcases kept.displayName with stays | ⟨who, user, _, member, named, _⟩
  · exact stays
  · refine absurd named (others user ?_)
    cases List.mem_singleton.1 member
    exact List.mem_singleton_self _

/-- Two logins with one account, in step with each other, come to nothing that they come to one after
another: both succeed, and the name that the first has saved is lost. -/
theorem not_serialises_inStep : Reached Sample.twice Sample.site Sample.inStep ∧
    (∃ named verified, Sample.inStep.rest 0 = .done (.ok named) ∧
      Sample.inStep.rest 1 = .done (.ok verified) ∧ named.displayName = some "kim") ∧
    (Sample.inStep.world.users.byId.get? Sample.member).bind User.displayName = none ∧
    ¬ ∃ turns, Serialises Sample.twice Sample.site Sample.inStep turns := by
  have lost : (Sample.inStep.world.users.byId.get? Sample.member).bind User.displayName = none := rfl
  refine ⟨steps_takeTurns _ _, ⟨_, _, rfl, rfl, rfl⟩, lost, ?_⟩
  rintro ⟨turns, serialises⟩
  have everyone (who : Fin 2) : who ∈ turns.map Resolution.who := by
    rw [serialises.ended]
    match who with
    | 0 => exact ⟨_, rfl⟩
    | 1 => exact ⟨_, rfl⟩
  obtain ⟨latest, first, rfl, next⟩ := Sample.exists_eq_pair serialises.once everyone
  have clocks := List.forall_mem_cons.1 serialises.clock
  have now := clocks.1 _ (Sample.clock_inStep latest.who)
  have before := List.forall_mem_singleton.1 clocks.2 _ (Sample.clock_inStep first.who)
  obtain ⟨world, serially, same⟩ := serialises.users
  cases serially with
  | turn serially resolvedLatest =>
    cases serially with
    | turn serially resolvedFirst =>
      cases serially
      rw [← now, next] at resolvedLatest
      rw [← before] at resolvedFirst
      have named := Sample.displayName_twice first.who
      rw [resolvedFirst, resolvedLatest, same, lost] at named
      cases named

end Resolvers

end SignOn.Engine
