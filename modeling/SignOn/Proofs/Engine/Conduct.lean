import SignOn.Engine.Service
import SignOn.Proofs.Engine.Contract

/-!
# What the operations of the service do

Every operation of the service reads the clock, draws identifiers, publishes events and counts
calls.  Beyond this *routine* each one has a few calls of its own, which are named with its
identity, values and lifetimes.  The lemmas say that an operation does nothing else: whatever
allows its routine and those calls allows all that it does.
-/

namespace SignOn.Engine

set_option autoImplicit false

/-- What it takes to keep the audit trail. -/
structure Recording (allowed : Action → Prop) : Prop where
  clock : allowed .readClock
  events : ∀ event, allowed (.publish event)

/-- What every operation of the service may do. -/
structure Routine (allowed : Action → Prop) : Prop where
  clock : allowed .readClock
  identifiers : allowed .drawTokenId
  events : ∀ event, allowed (.publish event)
  counts : ∀ (limited : Settings.LimitedOperation × UserId) window,
    allowed (.store (.count (windowKeyStart ++ limitKey limited.1 limited.2) window))

theorem Routine.recording {allowed : Action → Prop} (routine : Routine allowed) :
    Recording allowed := ⟨routine.clock, routine.events⟩

namespace Operation

variable {α : Type} {allowed : Action → Prop}

/-! ## The audit trail -/

section Trail

variable {operation : Audit.Operation} {context : Context}

theorem only_publishNow (recording : Recording allowed) {actor : Option UserId}
    {level : Audit.Level} {message : String} :
    (publishNow operation actor context level message).Only allowed :=
  only_bind (only_act recording.clock) fun _ => only_act (recording.events _)

theorem only_recordFailure (recording : Recording allowed) {failure : Failure} :
    (recordFailure operation context failure).Only allowed := by
  unfold recordFailure
  split
  · exact only_publishNow recording
  · exact only_publishNow recording

theorem only_recordOutcome (recording : Recording allowed) {outcome : Except Failure α} :
    (recordOutcome operation context outcome).Only allowed := by
  cases outcome with
  | ok value => exact only_publishNow recording
  | error failure => exact only_recordFailure recording

theorem only_observe (recording : Recording allowed) {body : Operation α}
    (inside : body.Only allowed) : (observe operation context body).Only allowed := by
  apply only_bind (only_outcome inside)
  intro outcome
  exact only_bind (only_recordOutcome recording) fun _ => only_ofOutcome outcome

theorem only_observeFailure (recording : Recording allowed) {body : Operation α}
    (inside : body.Only allowed) : (observeFailure operation context body).Only allowed := by
  apply only_bind (only_outcome inside)
  intro outcome
  cases outcome with
  | ok value => exact only_pure value
  | error failure => exact only_bind (only_recordFailure recording) fun _ => only_ofOutcome _

/-- What is observed for its failures succeeds with what it would succeed with by itself. -/
theorem yields_observeFailure {body : Operation α} {possible : α → Prop}
    (inside : body.Yields possible) : (observeFailure operation context body).Yields possible := by
  intro past
  rw [observeFailure, meets_bind, meets_outcome]
  refine (inside past).mono (fun _ _ allowed => allowed) ?_
  intro past outcome possibly
  cases outcome with
  | ok value => exact possibly
  | error failure =>
    have recording : Recording fun _ => True := ⟨trivial, fun _ => trivial⟩
    dsimp only
    rw [meets_bind]
    refine Meets.mono (only_recordFailure recording past) (fun _ _ allowed => allowed) ?_
    intro past recorded _
    cases recorded with
    | ok _ => exact nofun
    | error _ => exact nofun

end Trail

/-! ## Limits -/

section Limits

variable {operation : Settings.LimitedOperation} {identity : UserId}

/-- A limit counts at one key. -/
theorem only_checkLimit {limits : Settings.RateLimits}
    (counts : ∀ window, allowed (.store
      (.count (windowKeyStart ++ limitKey operation identity) window))) :
    (checkLimit limits operation identity).Only allowed := by
  unfold checkLimit
  split
  · exact only_pure ()
  · refine only_bind (only_bind (only_call (counts _)) fun _ => only_pure _) ?_
    intro within
    split
    · exact only_pure ()
    · exact only_reject _

theorem only_enforce_of (recording : Recording allowed) {service : Service} {context : Context}
    (counts : ∀ window, allowed (.store
      (.count (windowKeyStart ++ limitKey operation identity) window))) :
    (service.enforce context operation identity).Only allowed := by
  apply only_bind (only_outcome (only_checkLimit counts))
  intro outcome
  dsimp only
  split
  · exact only_bind (only_publishNow recording) fun _ => only_ofOutcome _
  · exact only_ofOutcome _

theorem only_enforce (routine : Routine allowed) {service : Service} {context : Context} :
    (service.enforce context operation identity).Only allowed :=
  only_enforce_of routine.recording fun _ => routine.counts (operation, identity) _

end Limits

end Operation

/-! ## The operations of the service -/

namespace Service

open Operation

variable {allowed : Action → Prop} {service : Service} {context : Context} {identity : UserId}

theorem only_issue (clock : allowed .readClock) (identifiers : allowed .drawTokenId)
    {kind : TokenKind} {lifetime : Duration} :
    (service.issue identity kind lifetime).Only allowed := by
  apply only_bind (only_act clock)
  intro now
  exact only_bind (only_act identifiers) fun _ => only_ofOutcome _

theorem only_issuePair (clock : allowed .readClock) (identifiers : allowed .drawTokenId) :
    (service.issuePair identity).Only allowed := by
  apply only_bind (only_issue clock identifiers)
  intro access
  exact only_bind (only_issue clock identifiers) fun _ => only_pure _

theorem only_verifyKind (clock : allowed .readClock) {raw : String} {kind : TokenKind} :
    (service.verifyKind raw kind).Only allowed :=
  only_bind (only_act clock) fun _ => only_ofVerdict _

/-- What is verified is accepted at some instant. -/
theorem yields_verifyKind (service : Service) (raw : String) (kind : TokenKind) :
    (service.verifyKind raw kind).Yields fun claims =>
      ∃ now, service.codec.verifyKind now raw kind = .ok claims :=
  yields_act_bind fun now => yields_ofVerdict fun _ accepted => ⟨now, accepted⟩

theorem only_startSession (clock : allowed .readClock) (identifiers : allowed .drawTokenId)
    (limited : (service.enforce context .login identity).Only allowed)
    (writes : ∀ value, allowed (.store
      (.writeSession identity value service.codec.refreshLifetime))) :
    (service.startSession context identity).Only allowed := by
  apply only_bind limited
  intro _
  apply only_bind (only_issuePair clock identifiers)
  intro pair
  exact only_bind (only_call (writes pair.refreshToken)) fun _ => only_pure pair

theorem only_login (routine : Routine allowed)
    (writes : ∀ value, allowed (.store
      (.writeSession identity value service.codec.refreshLifetime))) :
    (service.login context identity).Only allowed :=
  only_observe routine.recording
    (only_startSession routine.clock routine.identifiers (only_enforce routine) writes)

theorem only_resolve (routine : Routine allowed) {callback : Callback}
    (finds : ∀ provider account, allowed (.store (.findUser provider account)))
    (saves : ∀ user, allowed (.store (.saveUser user))) : (resolve callback).Only allowed := by
  apply only_bind (only_ofVerdict _)
  intro profile
  apply only_bind (only_act routine.clock)
  intro now
  apply only_bind (only_call (finds _ _))
  intro existing
  apply only_bind (only_ofVerdict _)
  intro user
  exact only_bind (only_call (saves user)) fun _ => only_pure user

theorem only_rotate (clock : allowed .readClock) (identifiers : allowed .drawTokenId)
    (limited : (service.enforce context .reissue identity).Only allowed) {presented : String}
    (reads : allowed (.store (.readSession identity)))
    (replaces : ∀ value, allowed (.store
      (.replaceSession identity presented value service.codec.refreshLifetime))) :
    (service.rotate context identity presented).Only allowed := by
  apply only_bind limited
  intro _
  apply only_bind (only_call reads)
  intro found
  cases found with
  | none => exact only_reject _
  | some session =>
    dsimp only
    split
    · apply only_bind (only_issuePair clock identifiers)
      intro pair
      apply only_bind (only_call (replaces pair.refreshToken))
      intro replaced
      split
      · exact only_pure pair
      · exact only_reject _
    · exact only_reject _

theorem only_revoke (clock : allowed .readClock) {codec : Codec} {token : String}
    (marks : ∀ lifetime, allowed (.store (.mark (markKey token) markText lifetime))) :
    (revoke codec token).Only allowed := by
  apply only_bind (only_act clock)
  intro now
  apply only_bind (only_ofVerdict _)
  intro remaining
  split
  · exact only_pure ()
  · exact only_call (marks _)

theorem only_endSession {token : Option String}
    (limited : ∀ identity, context.actor = some identity →
      (service.enforce context .logout identity).Only allowed)
    (deletes : ∀ identity, context.actor = some identity →
      allowed (.store (.deleteSession identity)))
    (revokes : ∀ text, token = some text → (revoke service.codec text).Only allowed) :
    (service.endSession context token).Only allowed := by
  unfold endSession
  split
  · exact only_reject _
  · next identity actor =>
    apply only_bind (limited identity actor)
    intro _
    apply only_bind (only_outcome (only_call (deletes identity actor)))
    intro deleted
    refine only_bind (only_outcome ?_) ?_
    · cases token with
      | none => exact only_pure ()
      | some text => exact revokes text rfl
    · intro revoked
      exact only_bind (only_ofOutcome deleted) fun _ => only_ofOutcome revoked

theorem only_checkAccess (routine : Routine allowed) {token : String}
    (asks : allowed (.store (.isMarked (markKey token)))) :
    (service.checkAccess token).Only allowed := by
  apply only_bind (only_verifyKind routine.clock)
  intro claims
  apply only_bind (only_call asks)
  intro revoked
  split
  · exact only_reject _
  · exact only_pure _

theorem only_providerLogin (routine : Routine allowed) {callback : Callback}
    (finds : ∀ provider account, allowed (.store (.findUser provider account)))
    (saves : ∀ user, allowed (.store (.saveUser user)))
    (writes : ∀ identity value, allowed (.store
      (.writeSession identity value service.codec.refreshLifetime))) :
    (service.providerLogin context callback).Only allowed := by
  apply only_bind (only_observeFailure routine.recording (only_resolve routine finds saves))
  intro user
  exact only_bind (only_login routine (writes user.id)) fun _ => only_pure _

theorem only_reissue (routine : Routine allowed) {presented : String}
    (reads : ∀ identity, allowed (.store (.readSession identity)))
    (replaces : ∀ identity value, allowed (.store
      (.replaceSession identity (Text.trim presented) value service.codec.refreshLifetime))) :
    (service.reissue context presented).Only allowed := by
  apply only_bind (only_observeFailure routine.recording (only_verifyKind routine.clock))
  intro claims
  exact only_observe routine.recording
    (only_rotate routine.clock routine.identifiers (only_enforce routine) (reads _) (replaces _))

theorem only_logout (routine : Routine allowed) {token : Option String}
    (deletes : ∀ identity, context.actor = some identity →
      allowed (.store (.deleteSession identity)))
    (marks : ∀ text, token = some text →
      ∀ lifetime, allowed (.store (.mark (markKey text) markText lifetime))) :
    (service.logout context token).Only allowed :=
  only_observe routine.recording (only_endSession (fun _ _ => only_enforce routine) deletes
    fun text given => only_revoke routine.clock (marks text given))

theorem only_authorize (routine : Routine allowed) {token : String}
    (asks : allowed (.store (.isMarked (markKey token)))) :
    (service.authorize context token).Only allowed := by
  apply only_bind (only_outcome (only_checkAccess routine asks))
  intro outcome
  rcases outcome with failure | identity
  · exact only_bind (only_recordFailure routine.recording) fun _ => only_ofOutcome _
  · exact only_bind (only_recordOutcome routine.recording) fun _ => only_ofOutcome _

end Service

end SignOn.Engine
