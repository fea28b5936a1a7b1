import SignOn.Proofs.Engine.Resolving

/-!
# Accounts keep their identity

A login goes by its account alone once that is known: the record that the account is found with is
refreshed and keeps its identity, whatever address the provider sends.  What a login does to the
record that any account is found with is one of five things (`Arrival.affects`).  Only one of them
parts an account from its identity, a login of another account of the provider that is resolved to
the same identity (`IsTakenOver`).

So an account is found with the identity it was first resolved to until that is taken over, and its
record is told from its own logins: it was created by the first, last signed in by the latest, and
shows of each field the latest text that was sent (`resolveAll_keepsIdentity`).
-/

namespace SignOn

set_option autoImplicit false

/-- A payload that cannot be read lacks a field, which is told. -/
theorem Profile.ofPayload_eq_error {provider : Provider} {payload : Json} {reason : Rejection}
    (unread : ofPayload provider payload = .error reason) :
    ∃ field, reason = .incompleteProfile field := by
  cases provider with
  | google =>
    rw [ofPayload, ofGoogle] at unread
    split at unread
    · exact ⟨_, (Except.error.inj unread).symm⟩
    · split at unread
      · exact ⟨_, (Except.error.inj unread).symm⟩
      · cases unread
  | kakao =>
    rw [ofPayload, ofKakao] at unread
    split at unread
    · exact ⟨_, (Except.error.inj unread).symm⟩
    · split at unread
      · exact ⟨_, (Except.error.inj unread).symm⟩
      · cases unread

namespace Engine

open Operation Store

/-- The record that an account is found with. -/
def World.foundAt (world : World) (account : Provider × String) : Option User :=
  world.users.find? account.1 account.2

/-! ## One login, as any account sees it -/

namespace Arrival

/-- The account that a login is one of. -/
def account (arrival : Arrival) : Provider × String :=
  (arrival.callback.provider, arrival.callback.account)

/-- The record that a login is resolved to, if it is. -/
def returned? (arrival : Arrival) (world : World) : Option User :=
  match (arrival.resolveIn world).1 with
  | .ok (.ok user) => some user
  | _ => none

variable {arrival : Arrival} {world : World} {account : Provider × String} {user : User}

theorem resolveIn_eq (arrival : Arrival) (world : World) :
    arrival.resolveIn world =
      match resolvedRecord arrival.callback { world with clock := arrival.now } with
      | .ok user =>
          (.ok (.ok user), { world with clock := arrival.now, users := world.users.save user })
      | .error reason => (.ok (.error (.rejected reason)), { world with clock := arrival.now }) :=
  on_resolve _ _

theorem returned?_eq_some_iff :
    arrival.returned? world = some user ↔ (arrival.resolveIn world).1 = .ok (.ok user) := by
  unfold returned?
  split
  · next found resolved => simp only [resolved, Option.some.injEq, Except.ok.injEq]
  · next other =>
    refine iff_of_false nofun fun resolved => ?_
    exact other user resolved

theorem signsIn_of_returned? (returned : arrival.returned? world = some user) :
    arrival.SignsIn user.id world :=
  ⟨user, returned?_eq_some_iff.1 returned, rfl⟩

/-- A login is resolved to a record of its own account. -/
theorem accountOf_of_returned? (inverse : world.users.Inverse)
    (returned : arrival.returned? world = some user) : Users.accountOf user = arrival.account := by
  rw [returned?_eq_some_iff, resolveIn_eq] at returned
  cases resolved : resolvedRecord arrival.callback { world with clock := arrival.now } with
  | error reason =>
    rw [resolved] at returned
    cases returned
  | ok record =>
    rw [resolved] at returned
    cases returned
    obtain ⟨profile, _, ⟨former, known, rfl⟩ | ⟨_, email, _, rfl⟩⟩ := resolvedRecord_cases resolved
    · exact (inverse.find?_eq_some_iff.1 known).2
    · rfl

/-- What a login does in a world to the record that an account is found with. -/
inductive Affects (arrival : Arrival) (world : World) (account : Provider × String) :
    Option User → Option User → Prop
  | unresolved {found : Option User} (fails : arrival.returned? world = none) :
      Affects arrival world account found found
  | elsewhere {found : Option User} {user : User} (returns : arrival.returned? world = some user)
      (other : arrival.account ≠ account)
      (spares : ∀ former, found = some former → user.id ≠ former.id) :
      Affects arrival world account found found
  | takesOver {former user : User} (returns : arrival.returned? world = some user)
      (provider : arrival.callback.provider = account.1)
      (other : arrival.callback.account ≠ account.2) (same : user.id = former.id) :
      Affects arrival world account (some former) none
  | refreshes {former user : User} {profile : Profile} (own : arrival.account = account)
      (returns : arrival.returned? world = some user)
      (parsed : Profile.ofPayload arrival.callback.provider arrival.callback.payload = .ok profile)
      (record : user = former.recordLogin profile.nickname profile.verifiedIdentifier arrival.now) :
      Affects arrival world account (some former) (some user)
  | creates {user : User} {profile : Profile} {email : String} (own : arrival.account = account)
      (returns : arrival.returned? world = some user)
      (parsed : Profile.ofPayload arrival.callback.provider arrival.callback.payload = .ok profile)
      (record : user = User.create ⟨email, account.1⟩ account.2 profile.nickname
        profile.verifiedIdentifier arrival.now) :
      Affects arrival world account none (some user)

/-- The login of another account takes an identity over or leaves the account as it is. -/
theorem affects_of_ne (inverse : world.users.Inverse)
    (returned : arrival.returned? world = some user) (other : arrival.account ≠ account) :
    arrival.Affects world account (world.foundAt account)
      ((world.users.save user).find? account.1 account.2) := by
  have own := accountOf_of_returned? inverse returned
  have unshared : Users.accountOf user ≠ (account.1, account.2) := own ▸ other
  cases found : world.foundAt account with
  | none =>
    have spares : Users.Spares user account.1 account.2 (world.users.find? account.1 account.2) :=
      ⟨unshared, fun former known => absurd (found.symm.trans known) nofun⟩
    rw [inverse.find?_save_of_spares spares, ← World.foundAt, found]
    exact .elsewhere returned other nofun
  | some former =>
    by_cases same : user.id = former.id
    · rw [inverse.find?_save_of_moved found same unshared]
      have named := (inverse.find?_eq_some_iff.1 found).2
      have provider : arrival.callback.provider = account.1 :=
        calc arrival.callback.provider = user.id.provider := (congrArg Prod.fst own).symm
          _ = former.id.provider := congrArg UserId.provider same
          _ = account.1 := congrArg Prod.fst named
      exact .takesOver returned provider (fun texts => other (Prod.ext provider texts)) same
    · have differs (known : User) (found' : some former = some known) : user.id ≠ known.id :=
        Option.some.inj found' ▸ same
      have spares : Users.Spares user account.1 account.2 (world.users.find? account.1 account.2) :=
        ⟨unshared, fun known leads => differs known (found.symm.trans leads)⟩
      rw [inverse.find?_save_of_spares spares, ← World.foundAt, found]
      exact .elsewhere returned other differs

theorem affects (inverse : world.users.Inverse) (arrival : Arrival) (account : Provider × String) :
    arrival.Affects world account (world.foundAt account)
      ((arrival.resolveIn world).2.foundAt account) := by
  have law := resolveIn_eq arrival world
  cases resolved : resolvedRecord arrival.callback { world with clock := arrival.now } with
  | error reason =>
    rw [resolved] at law
    rw [law]
    refine .unresolved ?_
    rw [returned?, law]
  | ok user =>
    rw [resolved] at law
    have returned : arrival.returned? world = some user := by rw [returned?, law]
    rw [law]
    by_cases own : arrival.account = account
    · have saved : (world.users.save user).find? account.1 account.2 = some user := by
        have named := (accountOf_of_returned? inverse returned).trans own
        rw [← named]
        exact inverse.find?_save_self user
      rw [World.foundAt, World.foundAt, saved]
      subst own
      obtain ⟨profile, parsed, ⟨former, known, record⟩ | ⟨unknown, email, _, record⟩⟩ :=
        resolvedRecord_cases resolved
      · have found : world.users.find? arrival.account.1 arrival.account.2 = some former := known
        rw [found]
        exact .refreshes rfl returned parsed record
      · have absent : world.users.find? arrival.account.1 arrival.account.2 = none := unknown
        rw [absent]
        exact .creates rfl returned parsed record
    · exact affects_of_ne inverse returned own

end Arrival

/-! ## Until an identity is taken over -/

section Keeps

variable {world : World} {account : Provider × String} {id : UserId} {user : User}
  {past since arrivals : List Arrival} {first latest : Arrival}

/-- After the past, one of some logins of other accounts of the provider is resolved to an
identity. -/
def IsTakenOver (world : World) (account : Provider × String) (id : UserId)
    (past since : List Arrival) : Prop :=
  ∃ later login earlier, since = later ++ login :: earlier ∧
    login.callback.provider = account.1 ∧ login.callback.account ≠ account.2 ∧
    login.SignsIn id (resolveAll world (earlier ++ past))

theorem IsTakenOver.cons (taken : IsTakenOver world account id past since) :
    IsTakenOver world account id past (latest :: since) := by
  obtain ⟨later, login, earlier, rfl, takes⟩ := taken
  exact ⟨latest :: later, login, earlier, rfl, takes⟩

/-- One of some logins of an account is resolved to an identity that is taken over later. -/
def LosesIdentity (world : World) (account : Provider × String) (arrivals : List Arrival) : Prop :=
  ∃ since own past id, arrivals = since ++ own :: past ∧ own.account = account ∧
    own.SignsIn id (resolveAll world past) ∧ IsTakenOver world account id (own :: past) since

theorem LosesIdentity.cons (loses : LosesIdentity world account arrivals) :
    LosesIdentity world account (latest :: arrivals) := by
  obtain ⟨since, own, past, id, rfl, signs, resolved, taken⟩ := loses
  exact ⟨latest :: since, own, past, id, rfl, signs, resolved, taken.cons⟩

/-- What the latest of some logins does to the record that an account is found with. -/
theorem affects_latest (world : World) (latest : Arrival) (past : List Arrival)
    (account : Provider × String) :
    latest.Affects (resolveAll world past) account ((resolveAll world past).foundAt account)
      ((resolveAll world (latest :: past)).foundAt account) :=
  Arrival.affects (inverse_resolveAll world past) latest account

/-- After a login its account is found with the identity that it was resolved to. -/
theorem exists_foundAt_of_signsIn (resolved : first.SignsIn id (resolveAll world past)) :
    ∃ user, (resolveAll world (first :: past)).foundAt first.account = some user ∧
      user.id = id := by
  obtain ⟨user, returned, named⟩ := resolved
  rw [← Arrival.returned?_eq_some_iff] at returned
  have affects := affects_latest world first past first.account
  generalize (resolveAll world past).foundAt first.account = before,
    (resolveAll world (first :: past)).foundAt first.account = after at affects
  cases affects with
  | unresolved fails => cases fails.symm.trans returned
  | elsewhere _ other _ => exact absurd rfl other
  | takesOver _ _ other _ => exact absurd rfl other
  | refreshes _ returns _ _ | creates _ returns _ _ =>
    obtain rfl := Option.some.inj (returns.symm.trans returned)
    exact ⟨_, rfl, named⟩

/-- An account is found with its identity until that is taken over. -/
theorem exists_foundAt_of_not_isTakenOver (resolved : first.SignsIn id (resolveAll world past))
    (kept : ¬ IsTakenOver world first.account id (first :: past) since) :
    ∃ user, (resolveAll world (since ++ first :: past)).foundAt first.account = some user ∧
      user.id = id := by
  induction since with
  | nil => exact exists_foundAt_of_signsIn resolved
  | cons latest since ih =>
    obtain ⟨former, found, named⟩ := ih fun taken => kept taken.cons
    have affects := affects_latest world latest (since ++ first :: past) first.account
    rw [found] at affects
    change ∃ user, (resolveAll world (latest :: (since ++ first :: past))).foundAt first.account =
      some user ∧ user.id = id
    generalize (resolveAll world (latest :: (since ++ first :: past))).foundAt first.account = after
      at affects ⊢
    cases affects with
    | unresolved _ | elsewhere _ _ _ => exact ⟨former, rfl, named⟩
    | takesOver returns provider other same =>
      have signsIn := Arrival.signsIn_of_returned? returns
      rw [same, named] at signsIn
      exact absurd ⟨[], latest, since, rfl, provider, other, signsIn⟩ kept
    | refreshes _ _ _ record => exact ⟨_, rfl, by rw [record]; exact named⟩

/-- The identity that an account is found with is one that a login of the account was resolved
to. -/
theorem exists_login_of_foundAt (found : (resolveAll world arrivals).foundAt account = some user) :
    ∃ since own past, arrivals = since ++ own :: past ∧ own.account = account ∧
      own.SignsIn user.id (resolveAll world past) := by
  induction arrivals generalizing user with
  | nil => cases found
  | cons latest past ih =>
    have affects := affects_latest world latest past account
    rw [found] at affects
    have earlier {former : User} (known : (resolveAll world past).foundAt account = some former) :
        ∃ since own before, latest :: past = since ++ own :: before ∧ own.account = account ∧
          own.SignsIn former.id (resolveAll world before) := by
      obtain ⟨since, own, before, rfl, signs⟩ := ih known
      exact ⟨latest :: since, own, before, rfl, signs⟩
    generalize known : (resolveAll world past).foundAt account = before at affects
    cases affects with
    | unresolved _ | elsewhere _ _ _ => exact earlier known
    | refreshes own returns _ _ | creates own returns _ _ =>
      exact ⟨[], latest, past, rfl, own, Arrival.signsIn_of_returned? returns⟩

/-! ## Records told from logins -/

/-- The logins of an account, among some, that were resolved; latest first. -/
def loginsOf (world : World) (account : Provider × String) : List Arrival → List Arrival
  | [] => []
  | latest :: past =>
      if latest.account = account ∧ (latest.returned? (resolveAll world past)).isSome then
        latest :: loginsOf world account past
      else loginsOf world account past

theorem loginsOf_cons_of_own (own : latest.account = account)
    (returns : latest.returned? (resolveAll world past) = some user) :
    loginsOf world account (latest :: past) = latest :: loginsOf world account past :=
  if_pos ⟨own, Option.isSome_iff_exists.2 ⟨user, returns⟩⟩

theorem loginsOf_cons_of_ne (other : latest.account ≠ account) :
    loginsOf world account (latest :: past) = loginsOf world account past :=
  if_neg fun both => other both.1

theorem loginsOf_cons_of_fails (fails : latest.returned? (resolveAll world past) = none) :
    loginsOf world account (latest :: past) = loginsOf world account past :=
  if_neg fun both => by rw [fails] at both; exact Bool.noConfusion both.2

/-- A record tells of some logins, latest first, when the first and the latest were, and of each
field the latest text that was sent. -/
structure Tells (user : User) (logins : List Arrival) : Prop where
  createdAt : logins.getLast?.map (fun login => Timestamp.ofInstant login.now) = some user.createdAt
  lastLoginAt : logins.head?.map (fun login => Timestamp.ofInstant login.now) =
    some user.lastLoginAt
  displayName : user.displayName = logins.findSome? fun login => login.sent Profile.nickname
  verifiedIdentifier : user.verifiedIdentifier =
    logins.findSome? fun login => login.sent Profile.verifiedIdentifier

variable {profile : Profile}

theorem Arrival.sent_eq {arrival : Arrival}
    (parsed : Profile.ofPayload arrival.callback.provider arrival.callback.payload = .ok profile)
    (field : Profile → Option String) : arrival.sent field = field profile := by
  rw [sent, parsed]
  rfl

theorem Tells.of_create {email : String}
    (parsed : Profile.ofPayload latest.callback.provider latest.callback.payload = .ok profile) :
    Tells (User.create ⟨email, account.1⟩ account.2 profile.nickname profile.verifiedIdentifier
      latest.now) [latest] := by
  refine ⟨rfl, rfl, ?_, ?_⟩
  · rw [List.findSome?_singleton, Arrival.sent_eq parsed]
    rfl
  · rw [List.findSome?_singleton, Arrival.sent_eq parsed]
    rfl

theorem Tells.recordLogin {logins : List Arrival} (tells : Tells user logins)
    (parsed : Profile.ofPayload latest.callback.provider latest.callback.payload = .ok profile) :
    Tells (user.recordLogin profile.nickname profile.verifiedIdentifier latest.now)
      (latest :: logins) := by
  refine ⟨?_, rfl, ?_, ?_⟩
  · cases logins with
    | nil => cases tells.createdAt
    | cons previous earlier =>
      rw [List.getLast?_cons_cons]
      exact tells.createdAt
  · rw [List.findSome?_cons, Arrival.sent_eq parsed, ← tells.displayName]
    cases profile.nickname <;> rfl
  · rw [List.findSome?_cons, Arrival.sent_eq parsed, ← tells.verifiedIdentifier]
    cases profile.verifiedIdentifier <;> rfl

/-- What an account is found with is told by its logins: nothing without a login, and else a record
of the account. -/
def FoundByLogins (account : Provider × String) (found : Option User) (logins : List Arrival) :
    Prop :=
  (logins = [] ∧ found = none) ∨
    ∃ user, found = some user ∧ Users.accountOf user = account ∧ Tells user logins

/-- An account of which no identity is taken over is found with what its logins tell. -/
theorem foundByLogins_of_not_losesIdentity (kept : ¬ LosesIdentity world account arrivals) :
    FoundByLogins account ((resolveAll world arrivals).foundAt account)
      (loginsOf world account arrivals) := by
  induction arrivals with
  | nil => exact Or.inl ⟨rfl, rfl⟩
  | cons latest past ih =>
    have before := ih fun loses => kept loses.cons
    have affects := affects_latest world latest past account
    generalize known : (resolveAll world past).foundAt account = found at affects before
    generalize (resolveAll world (latest :: past)).foundAt account = after at affects ⊢
    cases affects with
    | unresolved fails =>
      rw [loginsOf_cons_of_fails fails]
      exact before
    | elsewhere _ other _ =>
      rw [loginsOf_cons_of_ne other]
      exact before
    | takesOver returns provider other same =>
      obtain ⟨since, own, earlier, rfl, ours, resolved⟩ := exists_login_of_foundAt known
      have signsIn := Arrival.signsIn_of_returned? returns
      rw [same] at signsIn
      refine absurd ⟨latest :: since, own, earlier, _, rfl, ours, resolved, ?_⟩ kept
      exact ⟨[], latest, since, rfl, provider, other, signsIn⟩
    | @refreshes former _ profile own returns parsed record =>
      rw [loginsOf_cons_of_own own returns]
      rcases before with ⟨_, absent⟩ | ⟨user, same, named, tells⟩
      · cases absent
      · obtain rfl := Option.some.inj same
        refine Or.inr ⟨_, rfl, ?_, ?_⟩
        · rw [record]
          exact named
        · rw [record]
          exact tells.recordLogin parsed
    | creates own returns parsed record =>
      rw [loginsOf_cons_of_own own returns]
      rcases before with ⟨none, _⟩ | ⟨user, same, _⟩
      · rw [none]
        refine Or.inr ⟨_, rfl, ?_, ?_⟩
        · rw [record]
          rfl
        · rw [record]
          exact .of_create parsed
      · cases same

/-! ## The account, the address and the record -/

/-- A login of a known account is resolved to its identity if its payload can be read at all. -/
theorem returned?_of_foundAt {former : User} (found : world.foundAt latest.account = some former)
    (parsed : Profile.ofPayload latest.callback.provider latest.callback.payload = .ok profile) :
    latest.returned? world =
      some (former.recordLogin profile.nickname profile.verifiedIdentifier latest.now) := by
  have known : world.users.find? latest.callback.provider latest.callback.account = some former :=
    found
  rw [Arrival.returned?_eq_some_iff, Arrival.resolveIn_eq, resolvedRecord, parsed]
  dsimp only
  rw [known, recordFor]

/-- A login of an unknown account is turned down if no address is sent. -/
theorem resolveIn_of_unknown (unknown : world.foundAt latest.account = none)
    (nowhere : latest.sent Profile.email = none) :
    ∃ field, latest.resolveIn world =
        (.ok (.error (.rejected (.incompleteProfile field))), { world with clock := latest.now }) ∧
      ∀ profile, Profile.ofPayload latest.callback.provider latest.callback.payload = .ok profile →
        field = "email" := by
  have absent : world.users.find? latest.callback.provider latest.callback.account = none := unknown
  rw [Arrival.resolveIn_eq, resolvedRecord]
  cases parsed : Profile.ofPayload latest.callback.provider latest.callback.payload with
  | error reason =>
    obtain ⟨field, rfl⟩ := Profile.ofPayload_eq_error parsed
    exact ⟨field, rfl, nofun⟩
  | ok profile =>
    rw [Arrival.sent_eq parsed] at nowhere
    dsimp only
    rw [absent, recordFor, nowhere]
    exact ⟨"email", rfl, fun _ _ => rfl⟩

/-- What becomes of the accounts through any logins at providers, one after another, into a store
without records. -/
structure KeepsIdentity (world : World) : Prop where
  /-- An account that was resolved to an identity is resolved to no other one until it is taken
  over, -/
  identity : ∀ (past since : List Arrival) (first again : Arrival) (id : UserId),
    first.SignsIn id (resolveAll world past) →
    ¬ IsTakenOver world first.account id (first :: past) since → again.account = first.account →
      ∀ user : User, again.returned? (resolveAll world (since ++ first :: past)) = some user →
        user.id = id
  /-- and it is resolved to that one by every payload that can be read, whatever the address. -/
  resolved : ∀ (past since : List Arrival) (first again : Arrival) (id : UserId),
    first.SignsIn id (resolveAll world past) →
    ¬ IsTakenOver world first.account id (first :: past) since → again.account = first.account →
      ∀ profile : Profile,
        Profile.ofPayload again.callback.provider again.callback.payload = .ok profile →
        again.SignsIn id (resolveAll world (since ++ first :: past))
  /-- A login of an unknown account for which no address is sent is turned down, for lack of the
  address if the payload can be read, and leaves the store as it is. -/
  incomplete : ∀ (past : List Arrival) (login : Arrival),
    (resolveAll world past).foundAt login.account = none → login.sent Profile.email = none →
      ∃ field, (login.resolveIn (resolveAll world past)).1 =
          .ok (.error (.rejected (.incompleteProfile field))) ∧
        (login.resolveIn (resolveAll world past)).2.users = (resolveAll world past).users ∧
        ∀ profile, Profile.ofPayload login.callback.provider login.callback.payload = .ok profile →
          field = "email"
  /-- An account of which no identity is taken over is found with what its logins tell. -/
  record : ∀ (account : Provider × String) (arrivals : List Arrival),
    ¬ LosesIdentity world account arrivals →
      FoundByLogins account ((resolveAll world arrivals).foundAt account)
        (loginsOf world account arrivals)
  /-- No text that is sent for a field is blank. -/
  present : ∀ (login : Arrival) (text : String), login.sent Profile.nickname = some text ∨
    login.sent Profile.verifiedIdentifier = some text → Text.allBlank text = false

/-- **An account keeps its identity**, and its record tells of its logins, until another account of
the provider is resolved to that identity. -/
theorem resolveAll_keepsIdentity (world : World) : KeepsIdentity world where
  identity := by
    intro past since first again id resolved kept same user returned
    obtain ⟨former, found, named⟩ := exists_foundAt_of_not_isTakenOver resolved kept
    rw [← same] at found
    have affects := affects_latest world again (since ++ first :: past) again.account
    rw [found] at affects
    generalize (resolveAll world (again :: (since ++ first :: past))).foundAt again.account = after
      at affects
    cases affects with
    | unresolved fails => cases fails.symm.trans returned
    | elsewhere _ other _ => exact absurd rfl other
    | takesOver _ _ other _ => exact absurd rfl other
    | refreshes _ returns _ record =>
      obtain rfl := Option.some.inj (returns.symm.trans returned)
      rw [record]
      exact named
  resolved := by
    intro past since first again id resolved kept same profile parsed
    obtain ⟨former, found, named⟩ := exists_foundAt_of_not_isTakenOver resolved kept
    have returned := returned?_of_foundAt (same ▸ found) parsed
    exact ⟨_, Arrival.returned?_eq_some_iff.1 returned, named⟩
  incomplete := by
    intro past login unknown nowhere
    obtain ⟨field, turnedDown, reason⟩ := resolveIn_of_unknown unknown nowhere
    rw [turnedDown]
    exact ⟨field, rfl, rfl, reason⟩
  record := fun account arrivals kept => foundByLogins_of_not_losesIdentity kept
  present := by
    intro login text sent
    cases parsed : Profile.ofPayload login.callback.provider login.callback.payload with
    | error reason =>
      rw [Arrival.sent, Arrival.sent, parsed] at sent
      rcases sent with nothing | nothing <;> cases nothing
    | ok profile =>
      rw [Arrival.sent_eq parsed, Arrival.sent_eq parsed] at sent
      exact Profile.allBlank_of_ofPayload parsed sent

/-- A second login that tells the account alone is one of the identity of the first. -/
example : (Arrival.returned? ⟨.ofSeconds 1780304400, .kakao, "1",
      .object [("id", .number (.integer 1))]⟩
    (resolveAll Sample.site [Sample.firstLogin])).map User.id = some Sample.member := rfl

end Keeps

end Engine

end SignOn
