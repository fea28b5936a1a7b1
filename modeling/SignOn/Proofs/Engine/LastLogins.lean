import SignOn.Proofs.Engine.Resolving
import SignOn.Proofs.Engine.SessionEffects

/-!
# Provider logins and the records of users

A provider login is first resolved, which saves the record of its identity as of now.  Then the
identity is logged in, and that can still fail: its budget may be used up, the pair may not be
issued, or the session may not be stored.  Otherwise it succeeds (`Service.StartsSession`,
`Service.providerLogin_ok_iff`).

So a provider login that fails leaves the records as they were, unless it turns an identity away
after its record has been saved (`Service.TurnsAway`).  The record of an identity that has not been
turned away since its latest successful provider login tells the instant of that
(`Run.lastLoginAt_eq_lastSignIn`); once it has been, it need not
(`Run.lastLoginAt_ne_lastSignIn_overBudget`).
-/

namespace SignOn.Engine

set_option autoImplicit false

open Operation

namespace Service

variable {service : Service} {context : Context} {identity : UserId} {world after : World}

/-! ## Logging in -/

/-- Nothing stands in the way of a new session: the budget for logins admits one more, a pair can be
issued, and the session ends within the calendar. -/
structure StartsSession (service : Service) (identity : UserId) (world : World) : Prop where
  admitted : service.admits .login identity world = true
  issues : service.Issues
  fits : (service.codec.refreshLifetime.after world.clock).isRepresentable = true

/-- Whether a session can be started does not depend on the records. -/
theorem startsSession_withUsers {users : Store.Users} :
    service.StartsSession identity { world with users := users } ↔
      service.StartsSession identity world :=
  ⟨fun ⟨admitted, issues, fits⟩ => ⟨admitted, issues, fits⟩,
    fun ⟨admitted, issues, fits⟩ => ⟨admitted, issues, fits⟩⟩

theorem startSession_ok_iff (within : world.clock.isRepresentable = true) :
    (∃ pair, ((service.startSession context identity).on world).1 = .ok (.ok pair)) ↔
      service.StartsSession identity world := by
  constructor
  · rintro ⟨pair, succeeded⟩
    have ran := on_eq_of_fst succeeded
    rcases on_bind_cases ran with ⟨_, counted, enforced, ran⟩ | ⟨_, _, _, failed⟩
    · have clock := clock_of_on enforced
      have admitted : service.admits .login identity world = true := by
        by_contra refused
        have stopped := on_enforce_of_not_admits context (Bool.eq_false_iff.2 refused)
        rw [enforced] at stopped
        exact stopped rfl
      rcases on_bind_cases ran with ⟨_, drawn, issued, ran⟩ | ⟨_, _, _, failed⟩
      · obtain ⟨issues, rfl, rfl⟩ := issuePair_ok issued
        rcases on_bind_cases ran with ⟨_, written, stored, _⟩ | ⟨_, _, _, failed⟩
        · rcases writeSession_cases stored with ⟨fits, _, _⟩ | ⟨failed, _⟩
          · exact ⟨admitted, issues, clock ▸ fits⟩
          · exact absurd rfl (failed _)
        · exact absurd rfl (failed pair)
      · exact absurd rfl (failed pair)
    · exact absurd rfl (failed pair)
  · rintro ⟨admitted, issues, fits⟩
    obtain ⟨counters, enforced⟩ := on_enforce_of_admits context admitted
    let counted : World := { world with keyValue := counters }
    have stored : (call (.writeSession identity (service.pairIn identity counted).refreshToken
        service.codec.refreshLifetime)).on { counted with drawn := counted.drawn + 2 } = _ :=
      on_writeSession (Store.expiry_of_isRepresentable within fits)
    refine ⟨service.pairIn identity counted, ?_⟩
    rw [startSession, on_bind_ok enforced, on_bind_ok (on_issuePair issues), on_bind_ok stored,
      on_pure]

theorem login_ok_iff (within : world.clock.isRepresentable = true) :
    (∃ pair, ((service.login context identity).on world).1 = .ok (.ok pair)) ↔
      service.StartsSession identity world := by
  obtain ⟨events, observed⟩ : ∃ events, (service.login context identity).on world =
      (_, { ((service.startSession _ identity).on world).2 with events := events }) :=
    on_observe (service.startSession (context.withActor identity) identity)
  rw [observed, startSession_ok_iff within]

/-! ## Logging in at a provider -/

theorem routine_sparesUsers : Routine Action.SparesUsers :=
  ⟨trivial, trivial, fun _ => trivial, fun _ _ => trivial⟩

variable {callback : Callback} {user : User}

/-- A record that a login is resolved to is one of this instant. -/
theorem lastLoginAt_of_resolvedRecord (resolved : resolvedRecord callback world = .ok user) :
    user.lastLoginAt = .ofInstant world.clock := by
  obtain ⟨profile, _, ⟨former, _, rfl⟩ | ⟨_, email, _, rfl⟩⟩ := resolvedRecord_cases resolved
  · rfl
  · rfl

/-- A provider login whose callback is resolved to no record is turned down and changes none. -/
theorem on_providerLogin_unresolved (service : Service) (context : Context) {reason : Rejection}
    (unresolved : resolvedRecord callback world = .error reason) :
    ∃ event, (service.providerLogin context callback).on world =
      (.ok (.error (.rejected reason)), world.record event) := by
  have failed : (resolve callback).on world = (.ok (.error (.rejected reason)), world) := by
    rw [on_resolve, unresolved]
  obtain ⟨event, recorded⟩ : ∃ event, (observeFailure .login context (resolve callback)).on world =
      (.ok (.error (.rejected reason)), world.record event) := on_observeFailure_error failed
  exact ⟨event, on_bind_error recorded⟩

/-- A provider login that is resolved saves the record and goes on with the login of its identity. -/
theorem on_providerLogin_resolved (resolved : resolvedRecord callback world = .ok user) :
    (service.providerLogin context callback).on world =
      (do
        let pair ← service.login context user.id
        return (user, pair)).on { world with users := world.users.save user } := by
  have saved : (resolve callback).on world =
      (.ok (.ok user), { world with users := world.users.save user }) := by
    rw [on_resolve, resolved]
  exact on_bind_ok (on_observeFailure_ok saved)

/-- The records after a provider login tell what it was resolved to, and not how it ended. -/
theorem users_providerLogin (service : Service) (context : Context) (callback : Callback)
    (world : World) :
    ((service.providerLogin context callback).on world).2.users =
      match resolvedRecord callback world with
      | .ok user => world.users.save user
      | .error _ => world.users := by
  cases resolved : resolvedRecord callback world with
  | error reason =>
    obtain ⟨event, rejected⟩ := on_providerLogin_unresolved service context resolved
    rw [rejected]
    rfl
  | ok user =>
    rw [on_providerLogin_resolved resolved]
    refine users_of_on (only_bind (only_login routine_sparesUsers fun _ => trivial) fun _ => ?_) rfl
    exact only_pure _

/-- A provider login succeeds where it is resolved to a record and its identity can be logged in; then
it gives the record. -/
theorem providerLogin_ok_iff (context : Context) (within : world.clock.isRepresentable = true) :
    (∃ pair, ((service.providerLogin context callback).on world).1 = .ok (.ok (user, pair))) ↔
      resolvedRecord callback world = .ok user ∧ service.StartsSession user.id world := by
  cases resolved : resolvedRecord callback world with
  | error reason =>
    obtain ⟨event, rejected⟩ := on_providerLogin_unresolved service context resolved
    rw [rejected]
    simp
  | ok found =>
    rw [on_providerLogin_resolved resolved]
    let saved : World := { world with users := world.users.save found }
    have login : (∃ pair, ((service.login context found.id).on saved).1 = .ok (.ok pair)) ↔
        service.StartsSession found.id saved := login_ok_iff within
    rw [startsSession_withUsers] at login
    constructor
    · rintro ⟨pair, succeeded⟩
      rcases on_bind_cases (on_eq_of_fst succeeded) with ⟨_, _, started, done⟩ | ⟨_, _, _, failed⟩
      · obtain ⟨rfl, rfl⟩ := Prod.mk.inj (Except.ok.inj (Except.ok.inj (Prod.mk.inj done).1))
        exact ⟨rfl, login.1 ⟨_, congrArg Prod.fst started⟩⟩
      · exact absurd rfl (failed _)
    · rintro ⟨same, starts⟩
      obtain rfl := Except.ok.inj same
      obtain ⟨pair, started⟩ := login.2 starts
      exact ⟨pair, by rw [on_bind_ok (on_eq_of_fst started), on_pure]⟩

/-- A provider login turns an identity away after its record has been saved. -/
def TurnsAway (service : Service) (callback : Callback) (identity : UserId) (world : World) : Prop :=
  ∃ user, resolvedRecord callback world = .ok user ∧ user.id = identity ∧
    ¬ service.StartsSession identity world

/-- A provider login that turns an identity away fails, and all that is left of it among the records
is the one that was saved. -/
theorem TurnsAway.saves (turnsAway : service.TurnsAway callback identity world)
    (within : world.clock.isRepresentable = true) :
    (∀ answer, ((service.providerLogin context callback).on world).1 ≠ .ok (.ok answer)) ∧
      ∃ user, user.id = identity ∧ user.lastLoginAt = .ofInstant world.clock ∧
        ((service.providerLogin context callback).on world).2.users = world.users.save user := by
  obtain ⟨user, resolved, rfl, barred⟩ := turnsAway
  constructor
  · rintro ⟨found, pair⟩ succeeded
    obtain ⟨same, starts⟩ := (providerLogin_ok_iff _ within).1 ⟨pair, succeeded⟩
    obtain rfl := Except.ok.inj (resolved.symm.trans same)
    exact barred starts
  · refine ⟨user, rfl, lastLoginAt_of_resolvedRecord resolved, ?_⟩
    rw [users_providerLogin, resolved]

/-- A provider login that fails and turns nobody away is resolved to no record. -/
theorem users_providerLogin_of_failed (within : world.clock.isRepresentable = true)
    (failed : ∀ answer, ((service.providerLogin context callback).on world).1 ≠ .ok (.ok answer))
    (nobody : ∀ identity, ¬ service.TurnsAway callback identity world) :
    ((service.providerLogin context callback).on world).2.users = world.users := by
  rw [users_providerLogin]
  cases resolved : resolvedRecord callback world with
  | error reason => rfl
  | ok user =>
    have starts : service.StartsSession user.id world := by
      by_contra barred
      exact nobody user.id ⟨user, resolved, rfl, barred⟩
    obtain ⟨pair, succeeded⟩ := (providerLogin_ok_iff context within).2
      ⟨resolved, starts⟩
    exact absurd succeeded (failed (user, pair))

end Service

/-! ## What a deed does to the records -/

namespace Deed

/-- The identity that a deed logs in at its provider. -/
def signedIn : Deed → Option UserId
  | ⟨.providerLogin _ _, _, outcome⟩ =>
      match outcome with
      | .ok (.ok (user, _)) => some user.id
      | _ => none
  | _ => none

theorem exists_of_signedIn {context : Context} {callback : Callback} {before : World}
    {outcome : Except CalendarEnd (Except Failure (User × TokenPair))} {identity : UserId}
    (signed : (Deed.mk (.providerLogin context callback) before outcome).signedIn = some identity) :
    ∃ user pair, outcome = .ok (.ok (user, pair)) ∧ user.id = identity := by
  rcases outcome with _ | _ | ⟨user, pair⟩
  · cases signed
  · cases signed
  · exact ⟨user, pair, rfl, Option.some.inj signed⟩

/-- A deed is a provider login that turns an identity away. -/
def TurnsAway (service : Service) (identity : UserId) (deed : Deed) : Prop :=
  match deed.call with
  | .providerLogin _ callback => service.TurnsAway callback identity deed.before
  | _ => False

/-- What a deed does to the records: it saves one of this instant for an identity that it logs in or
turns away, or it does nothing. -/
inductive Registers (service : Service) (deed : Deed) (after : World) : Prop where
  | saves {user : User} (users : after.users = deed.before.users.save user)
      (stamped : user.lastLoginAt = .ofInstant deed.before.clock)
      (named : ∀ id, deed.signedIn = some id → id = user.id)
      (ends : deed.signedIn = some user.id ∨ deed.TurnsAway service user.id)
  | keeps (users : after.users = deed.before.users) (nobody : deed.signedIn = none)

end Deed

section Calls

variable {service : Service} {world : World}

theorem Call.registers_providerLogin (within : world.clock.isRepresentable = true)
    (context : Context) (callback : Callback) :
    ((Call.providerLogin context callback).deed service world).Registers service
      ((Call.providerLogin context callback).after service world) := by
  have users : ((Call.providerLogin context callback).after service world).users = _ :=
    Service.users_providerLogin service context callback world
  cases resolved : resolvedRecord callback world with
  | error reason =>
    rw [resolved] at users
    obtain ⟨event, rejected⟩ := service.on_providerLogin_unresolved context resolved
    refine .keeps users ?_
    rw [Call.deed, Call.operation, rejected]
    rfl
  | ok user =>
    rw [resolved] at users
    refine .saves users (Service.lastLoginAt_of_resolvedRecord resolved) ?_ ?_
    · intro id signed
      obtain ⟨found, pair, succeeded, rfl⟩ := Deed.exists_of_signedIn signed
      have same := ((Service.providerLogin_ok_iff _ within).1 ⟨pair, succeeded⟩).1
      rw [Except.ok.inj (same.symm.trans resolved)]
    · by_cases starts : service.StartsSession user.id world
      · obtain ⟨pair, succeeded⟩ := (Service.providerLogin_ok_iff context within).2
          ⟨resolved, starts⟩
        refine Or.inl ?_
        rw [Call.deed, Call.operation, succeeded]
        rfl
      · exact Or.inr ⟨user, resolved, rfl, starts⟩

/-- What every call does to the records. -/
theorem Call.registers (service : Service) (call : Call) (within : world.clock.isRepresentable = true) :
    (call.deed service world).Registers service (call.after service world) := by
  have keeps {call : Call} (spares : (call.operation service).Only Action.SparesUsers)
      (nobody : (call.deed service world).signedIn = none) :
      (call.deed service world).Registers service (call.after service world) :=
    .keeps (users_of_on spares rfl) nobody
  have routine := Service.routine_sparesUsers
  cases call with
  | providerLogin context callback => exact registers_providerLogin within context callback
  | login context identity => exact keeps (Service.only_login routine fun _ => trivial) rfl
  | reissue context presented =>
    exact keeps (Service.only_reissue routine (fun _ => trivial) fun _ _ => trivial) rfl
  | logout context token =>
    exact keeps (Service.only_logout routine (fun _ _ => trivial) fun _ _ _ => trivial) rfl
  | authorize context token => exact keeps (Service.only_authorize routine trivial) rfl

end Calls

/-! ## Records and logins of a run -/

/-- The instant of the latest provider login of an identity that succeeded. -/
def lastSignIn (identity : UserId) : List Deed → Option Instant
  | [] => none
  | deed :: past =>
      if deed.signedIn = some identity then some deed.before.clock else lastSignIn identity past

/-- An identity has been turned away since the latest provider login of it that succeeded. -/
def IsTurnedAway (service : Service) (identity : UserId) : List Deed → Prop
  | [] => False
  | deed :: past =>
      deed.TurnsAway service identity ∨
        deed.signedIn ≠ some identity ∧ IsTurnedAway service identity past

section Runs

variable {service : Service} {past : List Deed} {world : World} {identity : UserId}

/-- In every run the two tables of the user store are inverse to each other. -/
theorem Run.inverse_users (run : Run service past world) : world.users.Inverse := by
  induction run with
  | fresh start =>
    rw [start.users]
    exact Store.Users.inverse_empty
  | @call past world run call ih =>
    cases call.registers service run.isRepresentable with
    | @saves user users _ _ _ =>
      rw [users]
      exact ih.save user
    | keeps users _ =>
      rw [users]
      exact ih
  | sweep run ih => exact ih
  | wait run ordered within ih => exact ih

/-- The record of an identity that has not been turned away since tells the instant of its latest
provider login. -/
theorem Run.lastLoginAt_eq_lastSignIn (run : Run service past world) {user : User}
    (held : world.users.byId.get? identity = some user)
    (admitted : ¬ IsTurnedAway service identity past) :
    ∃ now, lastSignIn identity past = some now ∧ user.lastLoginAt = .ofInstant now := by
  induction run with
  | fresh start =>
    rw [start.users, Store.Users.empty, Store.Table.get?_empty] at held
    cases held
  | @call past world run call ih =>
    have unbarred : ¬ (call.deed service world).TurnsAway service identity :=
      fun turnsAway => admitted (Or.inl turnsAway)
    rw [lastSignIn]
    cases call.registers service run.isRepresentable with
    | @saves saved users stamped named ends =>
      rw [users] at held
      rcases run.inverse_users.get?_byId_save_eq_some_iff.1 held with
        ⟨rfl, rfl⟩ | ⟨differs, _, before⟩
      · have signed := ends.resolve_right unbarred
        exact ⟨world.clock, if_pos signed, stamped⟩
      · have unsigned : (call.deed service world).signedIn ≠ some identity :=
          fun signed => differs (named identity signed).symm
        rw [if_neg unsigned]
        exact ih before fun turnedAway => admitted (Or.inr ⟨unsigned, turnedAway⟩)
    | keeps users nobody =>
      rw [users] at held
      rw [if_neg (by rw [nobody]; exact nofun)]
      refine ih held fun turnedAway => admitted (Or.inr ⟨?_, turnedAway⟩)
      rw [nobody]
      exact nofun
  | sweep run ih => exact ih held admitted
  | wait run ordered within ih => exact ih held admitted

end Runs

/-! ## Failed logins and last logins -/

namespace Sample

/-- The small service, with room for one login a minute. -/
def strict : Service :=
  { service with limits := { service.limits with login := some ⟨1, 60⟩ } }

/-- A login of the member at the provider. -/
def arrival : Call := .providerLogin nobody firstLogin.callback

/-- A login with an account that is not known, and without an address. -/
def nameless : Callback := ⟨.kakao, "2", .object [("id", .number (.integer 2))]⟩

def arrived : World := arrival.after strict world

theorem run_arrived : Run strict [arrival.deed strict world] arrived :=
  (Run.fresh isFresh_world).call arrival

/-- Half a minute after the first login. -/
def later : World := arrived.waitUntil (.ofSeconds 1700000030)

theorem run_later : Run strict [arrival.deed strict world] later :=
  run_arrived.wait (by decide) (by decide)

end Sample

/-- **A failed provider login leaves the records as they were**, and the record of an identity tells
the instant of its latest successful provider login, wherever no provider login has turned an
identity away after its record had been saved. -/
theorem Run.failed_logins_leave_records {service : Service} {past : List Deed} {world : World}
    (run : Run service past world) :
    (∀ context callback,
      (∀ answer, ((service.providerLogin context callback).on world).1 ≠ .ok (.ok answer)) →
      (∀ identity, ¬ service.TurnsAway callback identity world) →
      ((service.providerLogin context callback).on world).2.users = world.users) ∧
    ∀ identity user, world.users.byId.get? identity = some user →
      ¬ IsTurnedAway service identity past →
      ∃ now, lastSignIn identity past = some now ∧ user.lastLoginAt = .ofInstant now :=
  ⟨fun _ _ failed nobody => service.users_providerLogin_of_failed run.isRepresentable failed nobody,
    fun _ _ held admitted => run.lastLoginAt_eq_lastSignIn held admitted⟩

/-- After a first login its record tells the instant of it, and a login that cannot be resolved
leaves the record. -/
theorem Run.failed_logins_leave_records_afterArrival :
    ((Sample.strict.providerLogin Sample.nobody Sample.nameless).on Sample.arrived).2.users =
      Sample.arrived.users ∧
    ∃ user now, Sample.arrived.users.byId.get? Sample.member = some user ∧
      lastSignIn Sample.member [Sample.arrival.deed Sample.strict Sample.world] = some now ∧
      user.lastLoginAt = .ofInstant now := by
  obtain ⟨unchanged, lastLogin⟩ := Run.failed_logins_leave_records Sample.run_arrived
  have unresolved : resolvedRecord Sample.nameless Sample.arrived =
      .error (.incompleteProfile "email") := rfl
  constructor
  · refine unchanged Sample.nobody Sample.nameless ?_ ?_
    · obtain ⟨event, rejected⟩ :=
        Sample.strict.on_providerLogin_unresolved Sample.nobody unresolved
      rw [rejected]
      exact nofun
    · rintro identity ⟨user, resolved, _⟩
      cases unresolved.symm.trans resolved
  · have held : Sample.arrived.users.byId.get? Sample.member = some
        (User.create Sample.member "1" (some "kim") (some "ci-1") Sample.world.clock) := rfl
    have starts : Sample.strict.StartsSession Sample.member Sample.world :=
      ⟨rfl, ⟨by decide, by decide⟩, by decide⟩
    obtain ⟨now, last, told⟩ := lastLogin _ _ held (by
      rintro (⟨user, _, _, barred⟩ | ⟨_, none⟩)
      · exact barred starts
      · exact none)
    exact ⟨_, now, held, last, told⟩

/-- An identity that logs in once more while its budget is used up is turned away, and yet its
record tells the instant of that. -/
theorem Run.lastLoginAt_ne_lastSignIn_overBudget :
    Run Sample.strict [Sample.arrival.deed Sample.strict Sample.world] Sample.later ∧
    ((Sample.arrival.operation Sample.strict).on Sample.later).1 =
      .ok (.error (.rejected (.rateLimitExceeded "login:kakao:k@x.com"))) ∧
    ((Sample.arrival.operation Sample.strict).on Sample.later).2.users ≠ Sample.later.users ∧
    ∃ user, (Sample.arrival.after Sample.strict Sample.later).users.byId.get? Sample.member =
        some user ∧
      lastSignIn Sample.member [Sample.arrival.deed Sample.strict Sample.later,
        Sample.arrival.deed Sample.strict Sample.world] = some (.ofSeconds 1700000000) ∧
      user.lastLoginAt = .ofInstant (.ofSeconds 1700000030) ∧
      user.lastLoginAt ≠ .ofInstant (.ofSeconds 1700000000) := by
  have before : Sample.later.users.byId.get? Sample.member = some
      (User.create Sample.member "1" (some "kim") (some "ci-1") (.ofSeconds 1700000000)) := rfl
  have after : (Sample.arrival.after Sample.strict Sample.later).users.byId.get? Sample.member =
      some ((User.create Sample.member "1" (some "kim") (some "ci-1")
        (.ofSeconds 1700000000)).recordLogin (some "kim") (some "ci-1") (.ofSeconds 1700000030)) := rfl
  refine ⟨Sample.run_later, rfl, ?_, _, after, rfl, rfl, by decide⟩
  intro same
  have held : (Sample.arrival.after Sample.strict Sample.later).users.byId.get? Sample.member = _ :=
    (congrArg (fun users : Store.Users => users.byId.get? Sample.member) same).trans before
  have told := congrArg (Option.map User.lastLoginAt) (after.symm.trans held)
  revert told
  decide

end SignOn.Engine
