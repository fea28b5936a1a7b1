import SignOn.Proofs.Engine.CallContract

/-!
# What histories say

A history says which value was last written for an identity (`lastValue`), which values were
written and which identifiers were drawn.  Every crowd that is reached from a fresh world keeps to
its history (`Crowd.Sound`): each call has kept its contract, no value was written twice, a
session that is still there holds the value last written for its identity, and a swap succeeded
only for that value.
-/

namespace SignOn.Engine

set_option autoImplicit false

open Operation

/-! ## Moments and the sessions -/

/-- The identity whose session is written or deleted at a moment, with the value that is written. -/
def Moment.change : Moment → Option (UserId × Option String)
  | ⟨.store (.writeSession owner value _), .answered _⟩ => some (owner, some value)
  | ⟨.store (.replaceSession owner _ value _), .answered true⟩ => some (owner, some value)
  | ⟨.store (.deleteSession owner), .answered _⟩ => some (owner, none)
  | _ => none

theorem Moment.change_of_sparesSessions {moment : Moment} (spares : moment.action.SparesSessions) :
    moment.change = none := by
  unfold change
  split
  · exact spares.elim
  · exact spares.elim
  · exact spares.elim
  · rfl

/-- What a moment does to the sessions of a world. -/
inductive Moment.Affects (moment : Moment) (world after : World) : Prop where
  | writes {owner : UserId} {value : String} {lifetime : Duration} {session : Session}
      (changes : moment.change = some (owner, some value))
      (act : moment.action = .store (.writeSession owner value lifetime) ∨
        ∃ old, world.sessions.liveAt world.clock owner = some old ∧
          moment.action = .store (.replaceSession owner old.refreshToken value lifetime))
      (holds : session.refreshToken = value)
      (lapse : session.expiresAt = lifetime.after world.clock)
      (sessions : ∀ other, after.sessions.get? other =
        if other = owner then some session else world.sessions.get? other)
  | deletes {owner : UserId} (changes : moment.change = some (owner, none))
      (act : moment.action = .store (.deleteSession owner))
      (sessions : ∀ other, after.sessions.get? other =
        if other = owner then none else world.sessions.get? other)
  | keeps (changes : moment.change = none) (kept : Service.Keeps world after)

variable {world after : World}

theorem affects_writeSession {owner : UserId} {value : String} {lifetime : Duration}
    {result : Reply Unit}
    (acted : world.perform (.store (.writeSession owner value lifetime)) = (.ok result, after)) :
    (Moment.mk (.store (.writeSession owner value lifetime)) result).Affects world after := by
  rw [World.perform, World.performCall, Store.Sessions.write] at acted
  cases fits : Store.expiry world.clock lifetime with
  | error fault =>
    rw [fits] at acted
    cases fault with
    | refused error =>
      cases acted
      exact .keeps rfl (Service.keeps_of_eq rfl)
    | calendarEnd => cases acted
  | ok expiresAt =>
    obtain ⟨rfl, _⟩ := Store.expiry_eq_ok fits
    rw [fits] at acted
    cases acted
    exact .writes rfl (Or.inl rfl) rfl rfl Store.Sessions.get?_insert

theorem affects_replaceSession {owner : UserId} {expected value : String} {lifetime : Duration}
    {result : Reply Bool}
    (acted : world.perform (.store (.replaceSession owner expected value lifetime)) =
      (.ok result, after)) :
    (Moment.mk (.store (.replaceSession owner expected value lifetime)) result).Affects world
      after := by
  rw [World.perform, World.performCall] at acted
  cases answered : world.sessions.replace world.clock owner expected value lifetime with
  | error fault =>
    rw [answered] at acted
    cases fault with
    | refused error =>
      cases acted
      exact .keeps rfl (Service.keeps_of_eq rfl)
    | calendarEnd => cases acted
  | ok outcome =>
    obtain ⟨replaced, store⟩ := outcome
    rw [answered] at acted
    cases acted
    rcases Store.Sessions.replace_eq_ok answered with ⟨rfl, old, live, rfl, rfl⟩ | ⟨rfl, _, kept⟩
    · exact .writes rfl (Or.inr ⟨old, live, rfl⟩) rfl rfl Store.Sessions.get?_insert
    · exact .keeps rfl kept

/-- What every action that is carried out does to the sessions. -/
theorem affects_of_perform {action : Action} {result : action.Result}
    (acted : world.perform action = (.ok result, after)) :
    (Moment.mk action result).Affects world after := by
  have spared (spares : action.SparesSessions) : (Moment.mk action result).Affects world after := by
    have same := World.perform_sessions spares world
    rw [acted] at same
    exact .keeps (Moment.change_of_sparesSessions spares) (Service.keeps_of_eq same)
  cases action with
  | readClock | drawTokenId | publish event | askProvider provider code => exact spared trivial
  | store call =>
    cases call with
    | writeSession owner value lifetime => exact affects_writeSession acted
    | replaceSession owner expected value lifetime => exact affects_replaceSession acted
    | deleteSession owner =>
      cases acted
      exact .deletes rfl rfl (world.sessions.get?_erase owner)
    | readSession owner =>
      have same : { world with sessions := (world.sessions.read world.clock owner).2 } = after :=
        (Prod.mk.inj acted).2
      subst same
      exact .keeps rfl (Service.keeps_read owner world)
    | count key window => exact spared trivial
    | mark key text lifetime => exact spared trivial
    | isMarked key => exact spared trivial
    | findUser provider account => exact spared trivial
    | saveUser user => exact spared trivial

/-- What comes of an action does so to the sessions too. -/
theorem World.Yields.affects {moment : Moment} (yields : world.Yields moment after) :
    moment.Affects world after := by
  cases yields with
  | done acted => exact affects_of_perform acted
  | @unanswered call reply without =>
    refine .keeps ?_ (Service.keeps_of_eq rfl)
    cases reply with
    | answered answer => exact absurd rfl (without answer)
    | failed error => cases call <;> rfl
    | timedOut => cases call <;> rfl

/-! ## Reading a history -/

/-- The value that is written at a moment. -/
def Moment.written? (moment : Moment) : Option String :=
  moment.change.bind Prod.snd

/-- The identifier that is drawn at a moment. -/
def Moment.drawn? : Moment → Option String
  | ⟨.drawTokenId, tokenId⟩ => some tokenId
  | _ => none

namespace Crowd

variable {ι : Type}

/-- The value that was last written for an identity, unless its session was deleted since. -/
def lastValue (identity : UserId) : List (ι × Moment) → Option String
  | [] => none
  | (_, moment) :: earlier =>
      match moment.change with
      | some (owner, value) => if owner = identity then value else lastValue identity earlier
      | none => lastValue identity earlier

/-- The values that were written, latest first. -/
def written (history : List (ι × Moment)) : List String :=
  history.filterMap fun event => event.2.written?

/-- The identifiers that were drawn, latest first. -/
def drawnIds (history : List (ι × Moment)) : List String :=
  history.filterMap fun event => event.2.drawn?

variable {who first second : ι} {moment : Moment} {identity : UserId} {value : String}
  {history newer older : List (ι × Moment)}

theorem lastValue_cons_of_change {change : Option String}
    (changes : moment.change = some (identity, change)) :
    lastValue identity ((who, moment) :: history) = change := by
  rw [lastValue, changes]
  exact if_pos rfl

theorem lastValue_cons_of_not_change (spared : ∀ change, moment.change ≠ some (identity, change)) :
    lastValue identity ((who, moment) :: history) = lastValue identity history := by
  rw [lastValue]
  split
  · next owner change changes =>
    apply if_neg
    rintro rfl
    exact spared change changes
  · rfl

theorem written_cons_of_none (nothing : moment.written? = none) :
    written ((who, moment) :: history) = written history :=
  List.filterMap_cons_none nothing

theorem written_cons_of_some (wrote : moment.written? = some value) :
    written ((who, moment) :: history) = value :: written history :=
  List.filterMap_cons_some wrote

theorem drawnIds_cons_of_none (nothing : moment.drawn? = none) :
    drawnIds ((who, moment) :: history) = drawnIds history :=
  List.filterMap_cons_none nothing

theorem mem_written_cons_of_change (changes : moment.change = some (identity, some value)) :
    value ∈ written ((who, moment) :: history) := by
  simp [written, Moment.written?, changes]

theorem mem_written_cons (member : value ∈ written history) (event : ι × Moment) :
    value ∈ written (event :: history) :=
  ((List.sublist_cons_self event history).filterMap _).mem member

theorem mem_written_iff :
    value ∈ written history ↔
      ∃ who moment identity, (who, moment) ∈ history ∧
        moment.change = some (identity, some value) := by
  simp [written, Moment.written?, Option.bind_eq_some_iff]

theorem mem_written_of_lastValue (last : lastValue identity history = some value) :
    value ∈ written history := by
  induction history with
  | nil => cases last
  | cons event earlier ih =>
    obtain ⟨who, moment⟩ := event
    by_cases changed : ∃ change, moment.change = some (identity, change)
    · obtain ⟨change, changes⟩ := changed
      rw [lastValue_cons_of_change changes] at last
      subst last
      exact mem_written_cons_of_change changes
    · rw [lastValue_cons_of_not_change fun change changes => changed ⟨change, changes⟩] at last
      exact mem_written_cons (ih last) _

/-- What was last written for an identity has been written since the last change that is known. -/
theorem mem_written_of_lastValue_append {change : Option String}
    (changes : moment.change = some (identity, change))
    (last : lastValue identity (newer ++ (who, moment) :: older) = some value) :
    value ∈ written (newer ++ [(who, moment)]) := by
  induction newer with
  | nil =>
    rw [List.nil_append, lastValue_cons_of_change changes] at last
    subst last
    exact mem_written_cons_of_change changes
  | cons event between ih =>
    obtain ⟨other, later⟩ := event
    rw [List.cons_append] at last
    by_cases changed : ∃ change, later.change = some (identity, change)
    · obtain ⟨change, changes⟩ := changed
      rw [lastValue_cons_of_change changes] at last
      subst last
      exact mem_written_cons_of_change changes
    · rw [lastValue_cons_of_not_change fun change changes => changed ⟨change, changes⟩] at last
      exact mem_written_cons (ih last) _

/-- Where no value is written twice, a value that has been overwritten or deleted is never the
last one again. -/
theorem lastValue_ne_of_change (once : (written (newer ++ (who, moment) :: older)).Nodup)
    {change : Option String} (changes : moment.change = some (identity, change))
    (before : lastValue identity older = some value) :
    lastValue identity (newer ++ (who, moment) :: older) ≠ some value := by
  intro again
  have late := mem_written_of_lastValue_append changes again
  have early := mem_written_of_lastValue before
  rw [List.append_cons, written, List.filterMap_append] at once
  exact (List.nodup_append.1 once).2.2 value late value early rfl

/-- Where no identifier is drawn twice, each was drawn by one call. -/
theorem eq_of_drawn {tokenId : String} (once : (drawnIds history).Nodup)
    (here : (first, .drawn tokenId) ∈ history) (there : (second, .drawn tokenId) ∈ history) :
    first = second := by
  induction history with
  | nil => cases here
  | cons event earlier ih =>
    have mem {who : ι} (member : (who, .drawn tokenId) ∈ earlier) : tokenId ∈ drawnIds earlier :=
      List.mem_filterMap.2 ⟨_, member, rfl⟩
    rcases List.mem_cons.1 here with rfl | mine
    · rcases List.mem_cons.1 there with same | theirs
      · exact (Prod.mk.inj same).1.symm
      · exact absurd (mem theirs) (List.nodup_cons.1 once).1
    · rcases List.mem_cons.1 there with rfl | theirs
      · exact absurd (mem mine) (List.nodup_cons.1 once).1
      · exact ih (once.sublist ((List.sublist_cons_self event earlier).filterMap _)) mine theirs

/-! ### Sessions that are still there -/

variable {service : Service}

/-- What a history says about a session that is still there at an instant. -/
structure Accounts (service : Service) (history : List (ι × Moment)) (clock : Instant)
    (identity : UserId) (session : Session) : Prop where
  last : lastValue identity history = some session.refreshToken
  issues : service.Issues
  /-- The value was issued, and the session does not lapse before it expires. -/
  issued : ∃ now tokenId, now.isRepresentable = true ∧
    session.refreshToken = service.codec.encode (service.refreshClaims now identity tokenId) ∧
    service.codec.refreshLifetime.after now ≤ session.expiresAt
  lapse : session.expiresAt ≤ service.codec.refreshLifetime.after clock

theorem Accounts.later {clock later : Instant} {session : Session}
    (accounts : Accounts service history clock identity session) (ordered : clock ≤ later) :
    Accounts service history later identity session :=
  { accounts with lapse := Int.le_trans accounts.lapse (Int.add_le_add_right ordered _) }

theorem Accounts.cons {clock : Instant} {session : Session}
    (accounts : Accounts service history clock identity session)
    (spared : ∀ change, moment.change ≠ some (identity, change)) :
    Accounts service ((who, moment) :: history) clock identity session :=
  { accounts with last := (lastValue_cons_of_not_change spared).trans accounts.last }

/-- Whenever the value of a session is verified, it names the identity of the session, and the
session is not over. -/
theorem Accounts.of_verified {clock later : Instant} {session : Session}
    {claims : Claims} (accounts : Accounts service history clock identity session)
    (verified : service.codec.verifyKind later session.refreshToken .refresh = .ok claims) :
    claims.userId = identity ∧ later < session.expiresAt := by
  obtain ⟨now, tokenId, within, issued, late⟩ := accounts.issued
  obtain ⟨accepted, _⟩ := Codec.verifyKind_eq_ok_iff.1 verified
  rw [issued, Codec.verify_encode _ (Service.inRange_refreshClaims within)] at accepted
  obtain ⟨rfl, _, unexpired⟩ := accepted
  refine ⟨rfl, Int.lt_of_lt_of_le ?_ late⟩
  exact Instant.lt_after _ (Int.lt_of_lt_of_le unexpired (Int.min_le_left _ _))

/-! ## Sound crowds -/

variable [DecidableEq ι] {calls : ι → Call}

/-- Every call acted as its contract says after what it had done before, and a swap succeeded only
for the value last written. -/
def Faithful (service : Service) (calls : ι → Call) : List (ι × Moment) → Prop
  | [] => True
  | (who, moment) :: earlier =>
      (calls who).Guard service (own who earlier) moment.action ∧
      (∀ owner expected value lifetime,
        moment = .answered (.replaceSession owner expected value lifetime) true →
        lastValue owner earlier = some expected) ∧
      Faithful service calls earlier

theorem Faithful.split (faithful : Faithful service calls (newer ++ (who, moment) :: older)) :
    (calls who).Guard service (own who older) moment.action ∧
      ∀ owner expected value lifetime,
        moment = .answered (.replaceSession owner expected value lifetime) true →
        lastValue owner older = some expected := by
  induction newer with
  | nil => exact ⟨faithful.1, faithful.2.1⟩
  | cons event between ih => exact ih faithful.2.2

/-- A crowd keeps to its history. -/
structure Sound (service : Service) (crowd : Crowd calls) : Prop where
  within : crowd.world.clock.isRepresentable = true
  distinct : Function.Injective crowd.world.tokenIds
  /-- Every call goes on as its contract says. -/
  meets : crowd.KeepsContracts (fun call => call.Guard service) fun call => call.Ends service
  faithful : Faithful service calls crowd.history
  readings : ∀ who now, (who, .clock now) ∈ crowd.history →
    now.isRepresentable = true ∧ now ≤ crowd.world.clock
  drawn : ∀ tokenId ∈ drawnIds crowd.history, ∃ count < crowd.world.drawn,
    crowd.world.tokenIds count = tokenId
  drawnOnce : (drawnIds crowd.history).Nodup
  once : (written crowd.history).Nodup
  accounts : ∀ identity session, crowd.world.sessions.get? identity = some session →
    Accounts service crowd.history crowd.world.clock identity session

variable {crowd : Crowd calls}

theorem sound_initial (turns : ι → List Bool) {world : World} (fresh : world.IsFresh)
    (distinct : Function.Injective world.tokenIds) :
    (initial service calls turns world).Sound service where
  within := fresh.clock
  distinct := distinct
  meets who program rest := by
    obtain rfl := Option.some.inj rest
    exact (calls who).meets service (turns who)
  faithful := trivial
  readings _ _ member := (List.not_mem_nil member).elim
  drawn := List.forall_mem_nil _
  drawnOnce := List.nodup_nil
  once := List.nodup_nil
  accounts identity session found := by
    change world.sessions.get? identity = some session at found
    rw [fresh.sessions, Store.Table.get?_empty] at found
    cases found

/-! ### What is written is new -/

/-- Whoever writes a value has issued it, and has not written before. -/
theorem issued_of_guard {call : Call} {past : List Moment}
    (guard : call.Guard service past moment.action)
    (changes : moment.change = some (identity, some value)) :
    service.HasIssued past identity value ∧ HasNotWritten past ∧ moment.action.WritesSession := by
  unfold Moment.change at changes
  split at changes
  · obtain ⟨rfl, same⟩ := Prod.mk.inj (Option.some.inj changes)
    obtain rfl := Option.some.inj same
    exact ⟨guard.1, guard.2.1, trivial⟩
  · obtain ⟨rfl, same⟩ := Prod.mk.inj (Option.some.inj changes)
    obtain rfl := Option.some.inj same
    exact ⟨guard.1, guard.2.1, trivial⟩
  · cases changes
  · cases changes

namespace Sound

variable (sound : crowd.Sound service)
include sound

theorem issued (issued : service.HasIssued (own who crowd.history) identity value) :
    ∃ now tokenId, now.isRepresentable = true ∧ now ≤ crowd.world.clock ∧
      (who, .drawn tokenId) ∈ crowd.history ∧
      value = service.codec.encode (service.refreshClaims now identity tokenId) := by
  obtain ⟨_, now, tokenId, read, drew, same⟩ := issued
  obtain ⟨within, past⟩ := sound.readings who now (mem_own.1 read)
  exact ⟨now, tokenId, within, past, mem_own.1 drew, same⟩

/-- What has been written was issued by the call that wrote it. -/
theorem issued_of_mem (member : (who, moment) ∈ crowd.history)
    (changes : moment.change = some (identity, some value)) :
    service.HasIssued (own who crowd.history) identity value ∧ moment.action.WritesSession := by
  have faithful := sound.faithful
  obtain ⟨newer, older, split⟩ := List.append_of_mem member
  rw [split] at faithful ⊢
  obtain ⟨issued, _, writes⟩ := issued_of_guard faithful.split.1 changes
  refine ⟨?_, writes⟩
  rw [own_append, own_cons_self, List.append_cons]
  exact issued.append _

/-- A value that a call has issued, before it writes a session, has not been written by any call. -/
theorem notMem_written (issued : service.HasIssued (own who crowd.history) identity value)
    (unwritten : HasNotWritten (own who crowd.history)) : value ∉ written crowd.history := by
  intro member
  obtain ⟨other, earlier, owner, happened, changes⟩ := mem_written_iff.1 member
  obtain ⟨issuedEarlier, writes⟩ := sound.issued_of_mem happened changes
  obtain ⟨now, tokenId, within, _, drew, rfl⟩ := sound.issued issued
  obtain ⟨before, otherId, withinBefore, _, drewOther, same⟩ := sound.issued issuedEarlier
  have claims := service.codec.encode_injective (Service.inRange_refreshClaims within)
    (Service.inRange_refreshClaims withinBefore) same
  have sameId : tokenId = otherId := congrArg Claims.tokenId claims
  subst sameId
  obtain rfl := eq_of_drawn sound.drawnOnce drew drewOther
  exact unwritten earlier (mem_own.2 happened) writes

/-- Whatever a call does as its contract says, no value is written twice. -/
theorem act_once {action : Action} (result : action.Result)
    (guard : (calls who).Guard service (own who crowd.history) action) :
    (written ((who, ⟨action, result⟩) :: crowd.history)).Nodup := by
  cases wrote : (Moment.mk action result).written? with
  | none =>
    rw [written_cons_of_none wrote]
    exact sound.once
  | some value =>
    rw [written_cons_of_some wrote]
    refine List.nodup_cons.2 ⟨?_, sound.once⟩
    obtain ⟨⟨identity, _⟩, changes, rfl⟩ := Option.bind_eq_some_iff.1 wrote
    obtain ⟨issued, unwritten, _⟩ := issued_of_guard guard changes
    exact sound.notMem_written issued unwritten

end Sound

/-! ### Steps keep crowds sound -/

namespace Sound

/-- The stores can lose lapsed sessions, and time can pass. -/
theorem move (sound : crowd.Sound service) {world : World} (ordered : crowd.world.clock ≤ world.clock)
    (within : world.clock.isRepresentable = true) (ids : world.tokenIds = crowd.world.tokenIds)
    (drawn : world.drawn = crowd.world.drawn)
    (kept : Service.Keeps crowd.world world) :
    Sound service { crowd with world := world } where
  within := within
  distinct := by
    rw [ids]
    exact sound.distinct
  meets := sound.meets
  faithful := sound.faithful
  readings who now read :=
    ⟨(sound.readings who now read).1, Int.le_trans (sound.readings who now read).2 ordered⟩
  drawn := by
    rw [ids, drawn]
    exact sound.drawn
  drawnOnce := sound.drawnOnce
  once := sound.once
  accounts identity session found := by
    refine (sound.accounts identity session ?_).later ordered
    rcases kept identity with same | same
    · exact same.symm.trans found
    · exact (Store.Sessions.liveAt_eq_some_iff.1 (same.symm.trans found)).1

/-- A call can break off. -/
theorem breakOff (sound : crowd.Sound service) {who : ι} (underWay : crowd.IsUnderWay who) :
    Sound service { crowd with rest := Function.update crowd.rest who none } :=
  { sound with meets := sound.meets.step (.breakOff underWay) }

section Act

variable (sound : crowd.Sound service) {action : Action} {result : action.Result} {after : World}
  (yields : crowd.world.Yields ⟨action, result⟩ after)
include sound yields

theorem act_accounts (guard : (calls who).Guard service (own who crowd.history) action)
    (identity : UserId) (session : Session) (found : after.sessions.get? identity = some session) :
    Accounts service ((who, ⟨action, result⟩) :: crowd.history) crowd.world.clock identity
      session := by
  cases yields.affects with
  | @writes owner value lifetime held changes act holds lapse sessions =>
    rw [sessions] at found
    by_cases same : identity = owner
    · subst same
      rw [if_pos rfl] at found
      obtain rfl := Option.some.inj found
      obtain ⟨issued, _, _⟩ := issued_of_guard guard changes
      obtain ⟨now, tokenId, within, past, _, written⟩ := sound.issued issued
      have usual : lifetime = service.codec.refreshLifetime := by
        rcases act with rfl | ⟨_, _, rfl⟩
        · exact guard.2.2
        · exact guard.2.2.1
      rw [usual] at lapse
      refine ⟨?_, issued.1, ⟨now, tokenId, within, holds.trans written, ?_⟩, ?_⟩
      · rw [lastValue_cons_of_change changes, holds]
      · rw [lapse]
        exact Int.add_le_add_right past _
      · rw [lapse]
        exact Int.le_refl _
    · rw [if_neg same] at found
      apply (sound.accounts identity session found).cons
      intro change changed
      rw [changes] at changed
      exact same (Prod.mk.inj (Option.some.inj changed)).1.symm
  | @deletes owner changes act sessions =>
    rw [sessions] at found
    by_cases same : identity = owner
    · rw [if_pos same] at found
      cases found
    · rw [if_neg same] at found
      apply (sound.accounts identity session found).cons
      intro change changed
      rw [changes] at changed
      exact same (Prod.mk.inj (Option.some.inj changed)).1.symm
  | keeps changes kept =>
    refine Accounts.cons ?_ fun change changed => ?_
    · rcases kept identity with same | same
      · exact sound.accounts identity session (same.symm.trans found)
      · exact sound.accounts identity session
          (Store.Sessions.liveAt_eq_some_iff.1 (same.symm.trans found)).1
    · rw [changes] at changed
      cases changed

/-- A swap that succeeds is for the value last written. -/
theorem act_swap (owner : UserId) (expected value : String) (lifetime : Duration)
    (swapped : Moment.mk action result =
      .answered (.replaceSession owner expected value lifetime) true) :
    lastValue owner crowd.history = some expected := by
  cases swapped
  cases yields.affects with
  | writes changes act holds lapse sessions =>
    rcases act with other | ⟨old, live, same⟩
    · cases other
    · cases same
      exact (sound.accounts _ old (Store.Sessions.liveAt_eq_some_iff.1 live).1).last
  | deletes changes => cases changes
  | keeps changes => cases changes

theorem act_readings (other : ι) (now : Instant)
    (read : (other, .clock now) ∈ (who, Moment.mk action result) :: crowd.history) :
    now.isRepresentable = true ∧ now ≤ crowd.world.clock := by
  rcases List.mem_cons.1 read with here | earlier
  · cases here
    cases yields with
    | done acted =>
      cases acted
      exact ⟨sound.within, Int.le_refl _⟩
  · exact sound.readings other now earlier

/-- An identifier that is drawn is a new one. -/
theorem act_drawn :
    (∀ tokenId ∈ drawnIds ((who, Moment.mk action result) :: crowd.history),
      ∃ count < after.drawn, crowd.world.tokenIds count = tokenId) ∧
    (drawnIds ((who, Moment.mk action result) :: crowd.history)).Nodup := by
  by_cases draws : action = .drawTokenId
  · subst draws
    cases yields with
    | done acted =>
      cases acted
      refine ⟨?_, List.nodup_cons.2 ⟨?_, sound.drawnOnce⟩⟩
      · intro tokenId member
        rcases List.mem_cons.1 member with rfl | earlier
        · exact ⟨crowd.world.drawn, Nat.lt_succ_self _, rfl⟩
        · obtain ⟨count, before, same⟩ := sound.drawn tokenId earlier
          exact ⟨count, Nat.lt_succ_of_lt before, same⟩
      · intro earlier
        obtain ⟨count, before, same⟩ := sound.drawn _ earlier
        exact Nat.ne_of_lt before (sound.distinct same)
  · have none : (Moment.mk action result).drawn? = none := by
      cases action with
      | drawTokenId => exact absurd rfl draws
      | store _ | readClock | publish _ | askProvider _ _ => rfl
    rw [drawnIds_cons_of_none none, yields.drawn draws]
    exact ⟨sound.drawn, sound.drawnOnce⟩

end Act

/-- A step keeps a crowd sound. -/
theorem step (sound : crowd.Sound service) {next : Crowd calls} (step : Step crowd next) :
    next.Sound service := by
  cases step with
  | @act who action next result after rest yields =>
    have guard := (sound.meets who _ rest).1
    constructor
    · rw [yields.clock]
      exact sound.within
    · rw [yields.tokenIds]
      exact sound.distinct
    · exact sound.meets.step (.act rest yields)
    · exact ⟨guard, sound.act_swap yields, sound.faithful⟩
    · rw [yields.clock]
      exact sound.act_readings yields
    · rw [yields.tokenIds]
      exact (sound.act_drawn yields).1
    · exact (sound.act_drawn yields).2
    · exact sound.act_once result guard
    · rw [yields.clock]
      exact sound.act_accounts yields guard
  | breakOff underWay => exact sound.breakOff underWay
  | sweep =>
    refine sound.move (Int.le_refl _) sound.within rfl rfl ?_
    intro other
    exact Or.inr Store.Sessions.get?_purge
  | wait ordered within => exact sound.move ordered within rfl rfl (Service.keeps_of_eq rfl)

end Sound

/-- Every crowd that is reached from a fresh world is sound. -/
theorem Reached.sound (reached : Reached service calls crowd) : crowd.Sound service := by
  induction reached with
  | start turns fresh distinct => exact sound_initial turns fresh distinct
  | step _ step ih => exact ih.step step

end Crowd

end SignOn.Engine
