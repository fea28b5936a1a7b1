import SignOn.Proofs.Engine.Access
import SignOn.Proofs.Engine.LastLogins
import SignOn.Proofs.Engine.Rotation

/-!
# Calls within the calendar

As long as pairs can be issued, and the lifetime of refresh credentials and the rate windows end
within the calendar, every call comes to its end and fails for nothing but a rejection
(`Call.answers`): no store turns a lifetime down, and none breaks off at the end of the calendar.
-/

namespace SignOn.Engine

set_option autoImplicit false

open Operation

/-! ## Operations that answer -/

section Answers

variable {α β : Type} {operation : Operation α} {follow : α → Operation β} {world after : World}

/-- An outcome that is no failure but a rejection. -/
def IsAnswer (outcome : Except Failure α) : Prop :=
  ∀ failure, outcome = .error failure → ∃ reason, failure = .rejected reason

theorem isAnswer_ok (value : α) : IsAnswer (.ok value) := nofun

theorem isAnswer_rejected (reason : Rejection) :
    IsAnswer (.error (.rejected reason) : Except Failure α) := by
  rintro failure ⟨⟩
  exact ⟨reason, rfl⟩

/-- An operation comes to its end in a world, and gives an answer. -/
def Answers (operation : Operation α) (world : World) : Prop :=
  ∃ outcome, (operation.on world).1 = .ok outcome ∧ IsAnswer outcome

theorem answers_of_on {outcome : Except Failure α}
    (ran : operation.on world = (.ok outcome, after)) (answer : IsAnswer outcome) :
    Answers operation world :=
  ⟨outcome, congrArg Prod.fst ran, answer⟩

theorem answers_pure (value : α) : Answers (pure value : Operation α) world :=
  answers_of_on (on_pure value world) (isAnswer_ok value)

theorem answers_reject (reason : Rejection) : Answers (reject reason : Operation α) world :=
  answers_of_on (on_reject reason world) (isAnswer_rejected reason)

theorem answers_ofOutcome {outcome : Except Failure α} (answer : IsAnswer outcome) :
    Answers (ofOutcome outcome) world :=
  answers_of_on (on_ofOutcome outcome world) answer

theorem answers_ofVerdict (verdict : Except Rejection α) : Answers (ofVerdict verdict) world := by
  cases verdict with
  | ok value => exact answers_of_on (on_ofVerdict _ world) (isAnswer_ok value)
  | error reason => exact answers_of_on (on_ofVerdict _ world) (isAnswer_rejected reason)

/-- One operation after another answers if the first does, and the second does where it goes on. -/
theorem answers_bind (first : Answers operation world)
    (next : ∀ value after, operation.on world = (.ok (.ok value), after) →
      Answers (follow value) after) :
    Answers (operation >>= follow) world := by
  obtain ⟨outcome, ended, answer⟩ := first
  have ran := on_eq_of_fst ended
  cases outcome with
  | ok value =>
    obtain ⟨last, done, answer⟩ := next value _ ran
    exact ⟨last, by rw [on_bind_ok ran, done], answer⟩
  | error failure =>
    obtain ⟨reason, rfl⟩ := answer failure rfl
    exact answers_of_on (on_bind_error ran) (isAnswer_rejected reason)

/-- Where the answer of an operation is kept as a value, what follows goes on with it. -/
theorem answers_outcome_bind {follow : Except Failure α → Operation β}
    (first : Answers operation world)
    (next : ∀ outcome, IsAnswer outcome → Answers (follow outcome) (operation.on world).2) :
    Answers (operation.outcome >>= follow) world := by
  obtain ⟨outcome, ended, answer⟩ := first
  obtain ⟨last, done, alsoAnswer⟩ := next outcome answer
  refine ⟨last, ?_, alsoAnswer⟩
  rw [on_bind_ok (on_outcome_ok (on_eq_of_fst ended)), done]

theorem answers_observe {kind : Audit.Operation} {context : Context}
    (answers : Answers operation world) : Answers (observe kind context operation) world := by
  obtain ⟨events, observed⟩ : ∃ events, (observe kind context operation).on world =
      ((operation.on world).1, { (operation.on world).2 with events := events }) :=
    on_observe operation
  rw [Answers, observed]
  exact answers

end Answers

/-! ## The operations of the service -/

namespace Service

variable {service : Service} {context : Context} {identity : UserId} {world : World}

/-- An instant at which pairs can be issued, and from which all times lead to instants of the
calendar. -/
structure IsTimely (service : Service) (now : Instant) : Prop extends service.FitsAt now where
  issues : service.Issues
  within : now.isRepresentable = true

theorem IsTimely.of_clock {after : World} (timely : service.IsTimely world.clock)
    (clock : after.clock = world.clock) : service.IsTimely after.clock := by
  rwa [clock]

theorem IsTimely.expiry (timely : service.IsTimely world.clock) :
    Store.expiry world.clock service.codec.refreshLifetime =
      .ok (service.codec.refreshLifetime.after world.clock) :=
  Store.expiry_of_isRepresentable timely.within timely.refresh

theorem answers_enforce (timely : service.IsTimely world.clock) (counters : HoldsCounters world)
    {operation : Settings.LimitedOperation} :
    Answers (service.enforce context operation identity) world := by
  cases admitted : service.admits operation identity world with
  | true =>
    obtain ⟨_, enforced⟩ := on_enforce_of_admits context admitted
    exact answers_of_on enforced (isAnswer_ok ())
  | false =>
    obtain ⟨_, _, refused⟩ :=
      counters.on_enforce_refused timely.within timely.toFitsAt context admitted
    exact answers_of_on refused (isAnswer_rejected _)

theorem answers_verifyKind {raw : String} {kind : TokenKind} :
    Answers (service.verifyKind raw kind) world :=
  answers_bind (answers_of_on (on_readClock world) (isAnswer_ok _)) fun _ _ _ => answers_ofVerdict _

theorem answers_issuePair (timely : service.IsTimely world.clock) :
    Answers (service.issuePair identity) world :=
  answers_of_on (on_issuePair timely.issues) (isAnswer_ok _)

theorem answers_writeSession {value : String} (timely : service.IsTimely world.clock) :
    Answers (call (.writeSession identity value service.codec.refreshLifetime)) world :=
  answers_of_on (on_writeSession timely.expiry) (isAnswer_ok ())

theorem answers_replaceSession {expected value : String} (timely : service.IsTimely world.clock) :
    Answers (call (.replaceSession identity expected value service.codec.refreshLifetime)) world := by
  obtain ⟨⟨replaced, sessions⟩, done⟩ : ∃ result, world.sessions.replace world.clock identity
      expected value service.codec.refreshLifetime = .ok result := by
    simp only [Store.Sessions.replace, timely.expiry]
    split
    · exact ⟨_, rfl⟩
    · split_ifs
      · exact ⟨_, rfl⟩
      · exact ⟨_, rfl⟩
      · exact ⟨_, rfl⟩
  have reply : world.performCall (.replaceSession identity expected value
      service.codec.refreshLifetime) =
        (.ok (.answered replaced), { world with sessions := sessions }) := by
    rw [World.performCall, done]
    rfl
  exact answers_of_on (on_call_answered reply) (isAnswer_ok replaced)

theorem answers_login (timely : service.IsTimely world.clock) (counters : HoldsCounters world) :
    Answers (service.login context identity) world := by
  refine answers_observe (answers_bind (answers_enforce timely counters) ?_)
  intro _ counted enforced
  have timely := timely.of_clock (clock_of_on enforced)
  refine answers_bind (answers_issuePair timely) fun pair drawn issued => ?_
  have timely := timely.of_clock (clock_of_on issued)
  exact answers_bind (answers_writeSession timely) fun _ _ _ => answers_pure pair

theorem answers_swap {presented : String} (timely : service.IsTimely world.clock) :
    Answers (service.swap identity presented) world := by
  refine answers_bind (answers_issuePair timely) fun pair drawn issued => ?_
  have timely := timely.of_clock (clock_of_on issued)
  refine answers_bind (answers_replaceSession timely) fun replaced after _ => ?_
  cases replaced with
  | true => exact answers_pure pair
  | false => exact answers_reject _

theorem answers_rotateFrom {presented : String} {found : Option Session}
    (timely : service.IsTimely world.clock) :
    Answers (service.rotateFrom identity presented found) world := by
  cases found with
  | none => exact answers_reject _
  | some session =>
    rw [rotateFrom]
    split
    · exact answers_swap timely
    · exact answers_reject _

theorem answers_rotate {presented : String} (timely : service.IsTimely world.clock)
    (counters : HoldsCounters world) :
    Answers (service.rotate context identity presented) world := by
  rw [rotate_eq]
  refine answers_bind (answers_enforce timely counters) fun _ counted enforced => ?_
  have timely := timely.of_clock (clock_of_on enforced)
  refine answers_bind (answers_of_on (on_readSession _ _) (isAnswer_ok _)) ?_
  intro found after looked
  exact answers_rotateFrom (timely.of_clock (clock_of_on looked))

theorem answers_reissue {presented : String} (timely : service.IsTimely world.clock)
    (counters : HoldsCounters world) : Answers (service.reissue context presented) world := by
  cases verified : service.codec.verifyKind world.clock presented .refresh with
  | error rejection =>
    obtain ⟨event, rejected⟩ := on_reissue_unverified context verified
    exact answers_of_on rejected (isAnswer_rejected rejection)
  | ok claims =>
    obtain ⟨events, rotated⟩ := on_reissue_verified context verified
    rw [Answers, rotated]
    exact answers_rotate timely counters

theorem answers_providerLogin {callback : Callback} (timely : service.IsTimely world.clock)
    (counters : HoldsCounters world) :
    Answers (service.providerLogin context callback) world := by
  cases resolved : resolvedRecord callback world with
  | error rejection =>
    obtain ⟨event, rejected⟩ := on_providerLogin_unresolved service context resolved
    exact answers_of_on rejected (isAnswer_rejected rejection)
  | ok user =>
    rw [Answers, on_providerLogin_resolved resolved]
    exact answers_bind (answers_login timely (counters.of_keyValue rfl)) fun _ _ _ => answers_pure _

/-- A mark is put for the time that is left until the expiry of a credential, and that can be added
to any instant of the calendar. -/
theorem answers_revoke {codec : Codec} {token : String} (within : world.clock.isRepresentable = true) :
    Answers (revoke codec token) world := by
  cases left : codec.remaining world.clock token with
  | error rejection =>
    exact answers_of_on (on_revoke_of_error left) (isAnswer_rejected rejection)
  | ok remaining =>
    obtain ⟨claims, carries, dated, rfl⟩ := Codec.remaining_eq_ok_iff.1 left
    by_cases before : world.clock < expiryOf claims
    · exact answers_of_on (on_revoke carries within dated before) (isAnswer_ok ())
    · have spent : (expiryOf claims).nanoseconds - world.clock.nanoseconds ≤ 0 :=
        Int.sub_nonpos_of_le (Instant.not_lt.1 before)
      rw [Answers, on_revoke_of_remaining (remaining_of_carries carries dated), if_pos spent]
      exact ⟨_, rfl, isAnswer_ok ()⟩

theorem answers_logout {token : Option String} (timely : service.IsTimely world.clock)
    (counters : HoldsCounters world) : Answers (service.logout context token) world := by
  apply answers_observe
  unfold endSession
  split
  · exact answers_reject _
  · next identity actor =>
    refine answers_bind (answers_enforce timely counters) fun _ counted enforced => ?_
    have clock := clock_of_on enforced
    refine answers_outcome_bind (answers_of_on (on_deleteSession identity counted) (isAnswer_ok ()))
      fun deleted answer => ?_
    refine answers_outcome_bind ?_ fun revoked alsoAnswer => ?_
    · cases token with
      | none => exact answers_pure ()
      | some token => exact answers_revoke ((clock_on _ _).trans clock ▸ timely.within)
    · exact answers_bind (answers_ofOutcome answer) fun _ _ _ => answers_ofOutcome alsoAnswer

theorem answers_authorize {token : String} :
    Answers (service.authorize context token) world := by
  have checked : Answers (service.checkAccess token) world := by
    refine answers_bind answers_verifyKind fun claims after _ => ?_
    have asked : (isRevoked token).on after = _ := on_isMarked (markKey token) after
    refine answers_bind (answers_of_on asked (isAnswer_ok _)) fun revoked _ _ => ?_
    cases revoked with
    | true => exact answers_reject _
    | false => exact answers_pure _
  rw [Answers, on_authorize]
  exact checked

end Service

/-- **Within the calendar every call gives an answer.** -/
theorem Call.answers {service : Service} {world : World} (timely : service.IsTimely world.clock)
    (counters : HoldsCounters world) (call : Call) : Answers (call.operation service) world := by
  cases call with
  | login context identity => exact Service.answers_login timely counters
  | providerLogin context callback => exact Service.answers_providerLogin timely counters
  | reissue context presented => exact Service.answers_reissue timely counters
  | logout context token => exact Service.answers_logout timely counters
  | authorize context token => exact Service.answers_authorize

end SignOn.Engine
