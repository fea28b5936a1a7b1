import SignOn.Engine.Service
import SignOn.Proofs.Credential.Issuing
import SignOn.Proofs.Engine.Running
import SignOn.Proofs.Store.Lapsing

/-!
# What operations come to in memory

The parts of the service are followed on the stores in memory.  Recording an outcome adds an event
and changes nothing else; verifying changes nothing at all; issuing a pair draws two identifiers.
Counting a call changes the store of counters, and the call goes on exactly when its identity has
budget left (`Service.admits`).
-/

namespace SignOn.Engine

set_option autoImplicit false

open Settings (LimitedOperation)

/-- The world with one more event. -/
def World.record (world : World) (event : Audit.Event) : World :=
  { world with events := world.events ++ [event] }

namespace Operation

variable {α : Type} {world after : World}

/-! ## Recording -/

section Trail

variable {operation : Audit.Operation} {context : Context}

theorem on_publishNow {actor : Option UserId} {level : Audit.Level} {message : String} :
    ∃ event, (publishNow operation actor context level message).on world =
      (.ok (.ok ()), world.record event) :=
  ⟨_, rfl⟩

theorem on_recordFailure {failure : Failure} :
    ∃ event, (recordFailure operation context failure).on world =
      (.ok (.ok ()), world.record event) := by
  unfold recordFailure
  split
  · exact on_publishNow
  · exact on_publishNow

theorem on_recordOutcome {outcome : Except Failure α} :
    ∃ event, (recordOutcome operation context outcome).on world =
      (.ok (.ok ()), world.record event) := by
  cases outcome with
  | ok value => exact on_publishNow
  | error failure => exact on_recordFailure

/-- Recording an outcome keeps it, and changes nothing but the events. -/
theorem on_observe (body : Operation α) :
    ∃ events, (observe operation context body).on world =
      ((body.on world).1, { (body.on world).2 with events := events }) := by
  cases ran : body.on world with
  | mk result after =>
    cases result with
    | error calendarEnd =>
      refine ⟨after.events, ?_⟩
      rw [observe, on_bind_broken (on_outcome_broken ran)]
    | ok outcome =>
      obtain ⟨event, recorded⟩ : ∃ event, (recordOutcome operation context outcome).on after =
          (.ok (.ok ()), after.record event) := on_recordOutcome
      refine ⟨after.events ++ [event], ?_⟩
      rw [observe, on_bind_ok (on_outcome_ok ran), on_bind_ok recorded, on_ofOutcome, World.record]

theorem on_observeFailure_ok {body : Operation α} {value : α}
    (ran : body.on world = (.ok (.ok value), after)) :
    (observeFailure operation context body).on world = (.ok (.ok value), after) := by
  rw [observeFailure, on_bind_ok (on_outcome_ok ran), on_pure]

theorem on_observeFailure_error {body : Operation α} {failure : Failure}
    (ran : body.on world = (.ok (.error failure), after)) :
    ∃ event, (observeFailure operation context body).on world =
      (.ok (.error failure), after.record event) := by
  obtain ⟨event, recorded⟩ : ∃ event, (recordFailure operation context failure).on after =
      (.ok (.ok ()), after.record event) := on_recordFailure
  refine ⟨event, ?_⟩
  rw [observeFailure, on_bind_ok (on_outcome_ok ran), on_bind_ok recorded, on_ofOutcome]

end Trail

end Operation

namespace Service

open Operation

variable {service : Service} {context : Context} {identity : UserId} {world : World}

/-! ## Credentials -/

theorem on_verifyKind (raw : String) (kind : TokenKind) :
    (service.verifyKind raw kind).on world =
      (.ok ((service.codec.verifyKind world.clock raw kind).mapError .rejected), world) := rfl

/-- The lifetimes for which both kinds of credential can be issued. -/
structure Issues (service : Service) : Prop where
  access : (service.codec.accessLifetime.seconds : Int) ≤ Codec.lastSecond
  refresh : (service.codec.refreshLifetime.seconds : Int) ≤ Codec.lastSecond

/-- The claims of a refresh credential issued at an instant. -/
def refreshClaims (service : Service) (now : Instant) (identity : UserId) (tokenId : String) :
    Claims :=
  Codec.issuedClaims now identity .refresh service.codec.refreshLifetime tokenId

theorem inRange_refreshClaims {now : Instant} (within : now.isRepresentable = true)
    {tokenId : String} :
    (service.refreshClaims now identity tokenId).InRange :=
  Codec.inRange_issuedClaims within

/-- The pair that would be issued in a world. -/
def pairIn (service : Service) (identity : UserId) (world : World) : TokenPair where
  accessToken := service.codec.encode (Codec.issuedClaims world.clock identity .access
    service.codec.accessLifetime (world.tokenIds world.drawn))
  refreshToken := service.codec.encode
    (service.refreshClaims world.clock identity (world.tokenIds (world.drawn + 1)))
  refreshMaxAge := service.codec.refreshMaxAge

theorem on_issue (service : Service) (identity : UserId) (kind : TokenKind) (lifetime : Duration)
    (world : World) :
    (service.issue identity kind lifetime).on world =
      (.ok (service.codec.issue world.clock identity kind lifetime (world.tokenIds world.drawn)),
        { world with drawn := world.drawn + 1 }) := rfl

theorem on_issuePair (issues : service.Issues) :
    (service.issuePair identity).on world =
      (.ok (.ok (service.pairIn identity world)), { world with drawn := world.drawn + 2 }) := by
  have access := on_issue service identity .access service.codec.accessLifetime world
  rw [(Codec.issue_eq_ok_iff _).2 ⟨issues.access, rfl⟩] at access
  have refresh := on_issue service identity .refresh service.codec.refreshLifetime
    { world with drawn := world.drawn + 1 }
  rw [(Codec.issue_eq_ok_iff _).2 ⟨issues.refresh, rfl⟩] at refresh
  rw [issuePair, on_bind_ok access, on_bind_ok refresh, on_pure]
  rfl

/-- A pair that cannot be issued is a failure of the engine. -/
theorem on_issuePair_of_not_issues (cannot : ¬ service.Issues) :
    ∃ message drawn, (service.issuePair identity).on world =
      (.ok (.error (.internal message)), { world with drawn := drawn }) := by
  have access := on_issue service identity .access service.codec.accessLifetime world
  by_cases accessFits : (service.codec.accessLifetime.seconds : Int) ≤ Codec.lastSecond
  · have refreshLong : (service.codec.refreshLifetime.seconds : Int) > Codec.lastSecond :=
      Int.not_le.1 fun refreshFits => cannot ⟨accessFits, refreshFits⟩
    rw [(Codec.issue_eq_ok_iff _).2 ⟨accessFits, rfl⟩] at access
    have refresh := on_issue service identity .refresh service.codec.refreshLifetime
      { world with drawn := world.drawn + 1 }
    rw [Codec.issue, if_pos refreshLong] at refresh
    refine ⟨TokenKind.refresh.name ++ " lifetime out of range", world.drawn + 2, ?_⟩
    rw [issuePair, on_bind_ok access]
    exact on_bind_error refresh
  · rw [Codec.issue, if_pos (Int.not_le.1 accessFits)] at access
    refine ⟨TokenKind.access.name ++ " lifetime out of range", world.drawn + 1, ?_⟩
    rw [issuePair]
    exact on_bind_error access

/-- Where a pair is issued, it is the one that would be issued. -/
theorem issuePair_ok {pair : TokenPair} {after : World}
    (ran : (service.issuePair identity).on world = (.ok (.ok pair), after)) :
    service.Issues ∧ pair = service.pairIn identity world ∧
      after = { world with drawn := world.drawn + 2 } := by
  by_cases issues : service.Issues
  · rw [on_issuePair issues] at ran
    obtain ⟨same, rfl⟩ := Prod.mk.inj ran
    exact ⟨issues, (Except.ok.inj (Except.ok.inj same)).symm, rfl⟩
  · obtain ⟨message, drawn, failed⟩ := on_issuePair_of_not_issues issues
    rw [failed] at ran
    cases ran

section Reissue

variable {presented : String}

/-- A reissue of what does not verify is recorded and turned down. -/
theorem on_reissue_unverified (context : Context) {rejection : Rejection}
    (unverified : service.codec.verifyKind world.clock presented .refresh = .error rejection) :
    ∃ event, (service.reissue context presented).on world =
      (.ok (.error (.rejected rejection)), world.record event) := by
  have failed : (service.verifyKind (Text.trim presented) .refresh).on world =
      (.ok (.error (.rejected rejection)), world) := by
    rw [on_verifyKind, Codec.verifyKind_trim, unverified]
    rfl
  obtain ⟨event, recorded⟩ : ∃ event, (observeFailure .tokenReissue context
      (service.verifyKind (Text.trim presented) .refresh)).on world =
        (.ok (.error (.rejected rejection)), world.record event) := on_observeFailure_error failed
  exact ⟨event, on_bind_error recorded⟩

/-- A reissue of what verifies is a rotation for the identity that it names. -/
theorem on_reissue_verified (context : Context) {claims : Claims}
    (verified : service.codec.verifyKind world.clock presented .refresh = .ok claims) :
    ∃ events, (service.reissue context presented).on world =
      (((service.rotate (context.withActor claims.userId) claims.userId
          (Text.trim presented)).on world).1,
        { ((service.rotate (context.withActor claims.userId) claims.userId
          (Text.trim presented)).on world).2 with events := events }) := by
  have read : (service.verifyKind (Text.trim presented) .refresh).on world =
      (.ok (.ok claims), world) := by
    rw [on_verifyKind, Codec.verifyKind_trim, verified]
    rfl
  rw [reissue, on_bind_ok (on_observeFailure_ok read)]
  exact on_observe _

end Reissue

/-! ## Limits -/

/-- The store key of the windows of an operation for an identity. -/
def windowKey (operation : LimitedOperation) (identity : UserId) : String :=
  windowKeyStart ++ limitKey operation identity

/-- Whether the budget of an identity admits one more call of an operation: where the operation
has a limit, the store counts the call, and the count, this call included, is within the limit. -/
def admits (service : Service) (operation : LimitedOperation) (identity : UserId) (world : World) :
    Bool :=
  match service.limits.limitOf operation with
  | none => true
  | some limit =>
      match world.keyValue.count world.clock (windowKey operation identity) limit.window with
      | .ok (count, _) => count ≤ limit.limit
      | .error _ => false

section Limits

variable {operation : LimitedOperation}

theorem performCall_count {key : String} {window : Duration} {count : Nat}
    {counters : Store.KeyValue}
    (counted : world.keyValue.count world.clock key window = .ok (count, counters)) :
    world.performCall (.count key window) =
      (.ok (.answered count), { world with keyValue := counters }) := by
  rw [World.performCall, counted]
  rfl

/-- A call that is counted is allowed if the count is within the limit. -/
theorem on_allow {key : String} {limit count : Nat} {window : Duration} {counters : Store.KeyValue}
    (counted : world.keyValue.count world.clock (windowKeyStart ++ key) window =
      .ok (count, counters)) :
    (allow key limit window).on world =
      (.ok (.ok (decide (count ≤ limit))), { world with keyValue := counters }) := by
  rw [allow, on_bind_ok (on_call_answered (performCall_count counted)), on_pure]

theorem on_checkLimit_unlimited {limits : Settings.RateLimits}
    (unlimited : limits.limitOf operation = none) :
    (checkLimit limits operation identity).on world = (.ok (.ok ()), world) := by
  rw [checkLimit, unlimited]
  rfl

/-- Where a call is counted, it goes on if the count is within the limit. -/
theorem on_checkLimit_counted {limits : Settings.RateLimits} {limit : Settings.RateLimit}
    (limited : limits.limitOf operation = some limit) {count : Nat} {counters : Store.KeyValue}
    (counted : world.keyValue.count world.clock (windowKey operation identity) limit.window =
      .ok (count, counters)) :
    (checkLimit limits operation identity).on world =
      (.ok (if count ≤ limit.limit then .ok ()
        else .error (.rejected (.rateLimitExceeded (limitKey operation identity)))),
        { world with keyValue := counters }) := by
  rw [windowKey] at counted
  rw [checkLimit, limited]
  dsimp only
  rw [on_bind_ok (on_allow counted)]
  by_cases within : count ≤ limit.limit
  · simp only [within, decide_true, if_true, on_pure]
  · simp only [within, decide_false, Bool.false_eq_true, if_false, on_reject]

theorem on_checkLimit_uncounted {limits : Settings.RateLimits} {limit : Settings.RateLimit}
    (limited : limits.limitOf operation = some limit) {fault : Store.Fault}
    (uncounted : world.keyValue.count world.clock (windowKey operation identity) limit.window =
      .error fault) :
    (∃ error, (checkLimit limits operation identity).on world =
        (.ok (.error (.storage error)), world)) ∨
      ∃ calendarEnd,
        (checkLimit limits operation identity).on world = (.error calendarEnd, world) := by
  have reply : world.performCall (.count (windowKey operation identity) limit.window) =
      (World.replyOfFault fault, world) := by
    rw [World.performCall, uncounted]
    rfl
  cases fault with
  | refused error =>
    refine Or.inl ⟨error, ?_⟩
    rw [checkLimit, limited]
    exact on_bind_error (on_bind_error (on_call_failed reply))
  | calendarEnd =>
    refine Or.inr ⟨⟨⟩, ?_⟩
    rw [checkLimit, limited]
    exact on_bind_broken (on_bind_broken (on_call_broken reply))

/-- A call whose limit is checked without a failure is counted and goes on. -/
theorem on_enforce_of_admits (context : Context)
    (admitted : service.admits operation identity world = true) :
    ∃ counters, (service.enforce context operation identity).on world =
      (.ok (.ok ()), { world with keyValue := counters }) := by
  have passes {counters : Store.KeyValue}
      (checked : (checkLimit service.limits operation identity).on world =
        (.ok (.ok ()), { world with keyValue := counters })) :
      (service.enforce context operation identity).on world =
        (.ok (.ok ()), { world with keyValue := counters }) := by
    rw [enforce, on_bind_ok (on_outcome_ok checked)]
    rfl
  unfold admits at admitted
  split at admitted
  · next unlimited => exact ⟨_, passes (on_checkLimit_unlimited unlimited)⟩
  · next limit limited =>
    split at admitted
    · next count counters counted =>
      have checked := on_checkLimit_counted limited counted
      rw [if_pos (of_decide_eq_true admitted)] at checked
      exact ⟨_, passes checked⟩
    · cases admitted

/-- A call beyond the limit is counted, recorded and turned down. -/
theorem on_enforce_exceeded (context : Context) {limit : Settings.RateLimit}
    (limited : service.limits.limitOf operation = some limit) {count : Nat}
    {counters : Store.KeyValue}
    (counted : world.keyValue.count world.clock (windowKey operation identity) limit.window =
      .ok (count, counters)) (beyond : ¬ count ≤ limit.limit) :
    ∃ event, (service.enforce context operation identity).on world =
      (.ok (.error (.rejected (.rateLimitExceeded (limitKey operation identity)))),
        { world with keyValue := counters }.record event) := by
  have checked := on_checkLimit_counted limited counted
  rw [if_neg beyond] at checked
  obtain ⟨event, recorded⟩ :
      ∃ event, (recordLimit context identity (limitKey operation identity)).on
          { world with keyValue := counters } =
        (.ok (.ok ()), { world with keyValue := counters }.record event) := on_publishNow
  refine ⟨event, ?_⟩
  rw [enforce, on_bind_ok (on_outcome_ok checked)]
  dsimp only
  rw [on_bind_ok recorded, on_ofOutcome]

/-- A call that its budget does not admit does not go on. -/
theorem on_enforce_of_not_admits (context : Context)
    (refused : service.admits operation identity world = false) :
    ((service.enforce context operation identity).on world).1 ≠ .ok (.ok ()) := by
  unfold admits at refused
  split at refused
  · cases refused
  · next limit limited =>
    split at refused
    · next count counters counted =>
      obtain ⟨event, exceeded⟩ := on_enforce_exceeded context limited counted
        (of_decide_eq_false refused)
      rw [exceeded]
      nofun
    · next fault uncounted =>
      rcases on_checkLimit_uncounted limited uncounted with ⟨error, failed⟩ | ⟨calendarEnd, broken⟩
      · rw [enforce, on_bind_ok (on_outcome_ok failed)]
        nofun
      · rw [enforce, on_bind_broken (on_outcome_broken broken)]
        nofun

end Limits

/-! ## Sessions -/

section Sessions

variable {store : Store.Sessions} {value expected : String} {lifetime : Duration}

theorem on_readSession (identity : UserId) (world : World) :
    (call (.readSession identity)).on world =
      (.ok (.ok (world.sessions.liveAt world.clock identity)),
        { world with sessions := (world.sessions.read world.clock identity).2 }) := by
  apply on_call_answered
  rw [World.performCall, World.answer, Store.Sessions.read_fst]

theorem on_deleteSession (identity : UserId) (world : World) :
    (call (.deleteSession identity)).on world =
      (.ok (.ok ()), { world with sessions := world.sessions.erase identity }) := rfl

theorem on_writeSession
    (fits : Store.expiry world.clock lifetime = .ok (lifetime.after world.clock)) :
    (call (.writeSession identity value lifetime)).on world =
      (.ok (.ok ()),
        { world with
          sessions := world.sessions.insert identity
            ⟨identity, value, lifetime.after world.clock⟩ }) := by
  apply on_call_answered
  rw [World.performCall, Store.Sessions.write, fits]
  rfl

/-- A store that cannot add a lifetime gives no answer and does nothing. -/
theorem on_call_of_fault {storeCall : StoreCall} {fault : Store.Fault}
    (reply : world.performCall storeCall = (World.replyOfFault fault, world)) :
    (∀ answer, ((call storeCall).on world).1 ≠ .ok (.ok answer)) ∧
      ((call storeCall).on world).2 = world := by
  cases fault with
  | refused error =>
    rw [on_call_failed reply]
    exact ⟨nofun, rfl⟩
  | calendarEnd =>
    rw [on_call_broken reply]
    exact ⟨nofun, rfl⟩

/-- A session is written if the end of its lifetime can be told, and otherwise nothing is. -/
theorem writeSession_cases {outcome : Except CalendarEnd (Except Failure Unit)} {after : World}
    (ran : (call (.writeSession identity value lifetime)).on world = (outcome, after)) :
    (lifetime.after world.clock).isRepresentable = true ∧ outcome = .ok (.ok ()) ∧
        after.sessions =
          world.sessions.insert identity ⟨identity, value, lifetime.after world.clock⟩ ∨
      (∀ answer, outcome ≠ .ok (.ok answer)) ∧ after = world := by
  cases fits : Store.expiry world.clock lifetime with
  | ok expiresAt =>
    obtain ⟨rfl, within⟩ := Store.expiry_eq_ok fits
    rw [on_writeSession fits] at ran
    obtain ⟨rfl, rfl⟩ := Prod.mk.inj ran
    exact Or.inl ⟨within, rfl, rfl⟩
  | error fault =>
    have reply : world.performCall (.writeSession identity value lifetime) =
        (World.replyOfFault fault, world) := by
      rw [World.performCall, Store.Sessions.write, fits]
      rfl
    have failed := on_call_of_fault reply
    rw [ran] at failed
    exact Or.inr failed

theorem on_replaceSession {session : Session}
    (fits : Store.expiry world.clock lifetime = .ok (lifetime.after world.clock))
    (live : world.sessions.liveAt world.clock identity = some session)
    (same : session.refreshToken = expected) :
    (call (.replaceSession identity expected value lifetime)).on world =
      (.ok (.ok true),
        { world with
          sessions := world.sessions.insert identity
            { session with refreshToken := value, expiresAt := lifetime.after world.clock } }) := by
  apply on_call_answered
  rw [World.performCall, Store.Sessions.replace_of_live fits live same]
  rfl

/-- The live session is replaced if the end of the lifetime can be told, and otherwise nothing is.
-/
theorem replaceSession_cases {outcome : Except CalendarEnd (Except Failure Bool)} {after : World}
    (ran : (call (.replaceSession identity expected value lifetime)).on world = (outcome, after))
    {session : Session} (live : world.sessions.liveAt world.clock identity = some session)
    (same : session.refreshToken = expected) :
    (lifetime.after world.clock).isRepresentable = true ∧ outcome = .ok (.ok true) ∧
        after.sessions = world.sessions.insert identity
          { session with refreshToken := value, expiresAt := lifetime.after world.clock } ∨
      (∀ answer, outcome ≠ .ok (.ok answer)) ∧ after = world := by
  cases fits : Store.expiry world.clock lifetime with
  | ok expiresAt =>
    obtain ⟨rfl, within⟩ := Store.expiry_eq_ok fits
    rw [on_replaceSession fits live same] at ran
    obtain ⟨rfl, rfl⟩ := Prod.mk.inj ran
    exact Or.inl ⟨within, rfl, rfl⟩
  | error fault =>
    have reply : world.performCall (.replaceSession identity expected value lifetime) =
        (World.replyOfFault fault, world) := by
      rw [World.performCall, Store.Sessions.replace, fits]
      rfl
    have failed := on_call_of_fault reply
    rw [ran] at failed
    exact Or.inr failed

end Sessions

end Service

end SignOn.Engine
