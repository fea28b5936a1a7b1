import SignOn.Proofs.Engine.FailClosed
import SignOn.Proofs.Engine.Runs

/-!
# Where the failures of stores come from

The service makes up no failures of its stores: where it ends with one, a store gave it during the
call (`Call.relaying`).  So what no store can answer is no outcome of a call either.  In memory this
is made exact for the states in which an invariant holds (`Operation.Ends.of_invariant`).
-/

namespace SignOn.Engine

set_option autoImplicit false

open Operation

/-! ## Outcomes -/

section Outcomes

variable {α β : Type} {past : List Moment}

/-- The failure of a store, if that is the outcome, is what a moment of the past is. -/
def Relayed (past : List Moment) (outcome : Except Failure α) : Prop :=
  ∀ error, outcome = .error (.storage error) →
    ∃ moment ∈ past, moment.failure? = some (.storage error)

theorem relayed_ok (value : α) : Relayed past (.ok value) := nofun

theorem relayed_rejected (reason : Rejection) :
    Relayed past (.error (.rejected reason) : Except Failure α) := nofun

theorem Relayed.append {outcome : Except Failure α} (relayed : Relayed past outcome)
    (more : List Moment) : Relayed (more ++ past) outcome := by
  intro error same
  obtain ⟨moment, member, failed⟩ := relayed error same
  exact ⟨moment, List.mem_append_right more member, failed⟩

/-- A failure is relayed whatever answer it stands in for. -/
theorem Relayed.of_error {failure : Failure}
    (relayed : Relayed past (.error failure : Except Failure α)) :
    Relayed past (.error failure : Except Failure β) := by
  intro error same
  exact relayed error (by rw [Except.error.inj same])

end Outcomes

/-! ## Operations -/

/-- An operation relays the failures of stores: whatever its actions give, it ends with none but one
that a store gave. -/
def Relaying {α : Type} (operation : Operation α) : Prop :=
  ∀ past, operation.Ends Relayed past

section Relaying

variable {α β : Type} {operation : Audit.Operation} {context : Context}

theorem relaying_pure (value : α) : Relaying (pure value : Operation α) :=
  fun _ => relayed_ok value

theorem relaying_reject (reason : Rejection) : Relaying (reject reason : Operation α) :=
  fun _ => relayed_rejected reason

theorem relaying_ofVerdict (verdict : Except Rejection α) : Relaying (ofVerdict verdict) := by
  cases verdict with
  | ok value => exact fun _ => relayed_ok value
  | error reason => exact fun _ => relayed_rejected reason

theorem relaying_act (action : Action) : Relaying (act action) :=
  fun _ => ⟨trivial, fun result => relayed_ok result⟩

theorem relaying_call (call : StoreCall) : Relaying (Operation.call call) := by
  intro past
  refine ends_call.2 fun reply => ?_
  rcases call.outcome_cases reply with ⟨answer, _, outcome, _⟩ | ⟨failure, outcome, failed⟩
  · rw [outcome]
    exact relayed_ok answer
  · rw [outcome]
    intro error same
    rw [Except.error.inj same] at failed
    exact ⟨_, List.mem_cons_self, failed⟩

theorem relaying_bind {first : Operation α} {follow : α → Operation β}
    (relaying : Relaying first) (next : ∀ value, Relaying (follow value)) :
    Relaying (first >>= follow) := by
  intro past
  rw [Ends, meets_bind]
  refine Ends.mono (relaying past) fun past outcome relayed => ?_
  cases outcome with
  | ok value => exact next value past
  | error failure => exact relayed.of_error

theorem relaying_observe {body : Operation α} (inside : Relaying body) :
    Relaying (observe operation context body) := by
  intro past
  refine ends_observe (Ends.mono (inside past) fun past outcome relayed record _ => ?_)
  exact relayed.append record

theorem relaying_observeFailure {body : Operation α} (inside : Relaying body) :
    Relaying (observeFailure operation context body) := by
  intro past
  refine ends_observeFailure (Ends.mono (inside past) fun past outcome relayed => ⟨?_, ?_⟩)
  · intro value _
    exact relayed_ok value
  · rintro failure rfl record _
    exact relayed.append record

end Relaying

/-! ## The operations of the service -/

namespace Service

variable {service : Service} {context : Context} {identity : UserId}

theorem relaying_enforce {operation : Settings.LimitedOperation} :
    Relaying (service.enforce context operation identity) := by
  intro past
  refine Ends.mono ends_enforce ?_
  rintro _ outcome ⟨records, counting, _, counts, rfl⟩
  apply Relayed.append
  cases counts with
  | unlimited | within => exact relayed_ok ()
  | beyond limited many => exact relayed_rejected _
  | uncounted limited failed =>
    intro error same
    rw [Except.error.inj same] at failed
    exact ⟨_, List.mem_cons_self, failed⟩

theorem relaying_issue {kind : TokenKind} {lifetime : Duration} :
    Relaying (service.issue identity kind lifetime) := by
  apply relaying_bind (relaying_act _)
  intro now
  apply relaying_bind (relaying_act _)
  intro tokenId past
  rw [Ends, meets_ofOutcome, Codec.issue]
  split
  · rintro error ⟨⟩
  · exact relayed_ok _

theorem relaying_issuePair : Relaying (service.issuePair identity) :=
  relaying_bind relaying_issue fun _ => relaying_bind relaying_issue fun _ => relaying_pure _

theorem relaying_verifyKind {raw : String} {kind : TokenKind} :
    Relaying (service.verifyKind raw kind) :=
  relaying_bind (relaying_act _) fun _ => relaying_ofVerdict _

theorem relaying_login : Relaying (service.login context identity) := by
  apply relaying_observe
  apply relaying_bind relaying_enforce
  intro _
  apply relaying_bind relaying_issuePair
  intro pair
  exact relaying_bind (relaying_call _) fun _ => relaying_pure pair

theorem relaying_resolve {callback : Callback} : Relaying (resolve callback) := by
  apply relaying_bind (relaying_ofVerdict _)
  intro profile
  apply relaying_bind (relaying_act _)
  intro now
  apply relaying_bind (relaying_call _)
  intro existing
  apply relaying_bind (relaying_ofVerdict _)
  intro user
  exact relaying_bind (relaying_call _) fun _ => relaying_pure user

theorem relaying_rotate {presented : String} :
    Relaying (service.rotate context identity presented) := by
  apply relaying_bind relaying_enforce
  intro _
  apply relaying_bind (relaying_call _)
  intro found
  split
  · exact relaying_reject _
  · split
    · apply relaying_bind relaying_issuePair
      intro pair
      apply relaying_bind (relaying_call _)
      intro replaced
      split
      · exact relaying_pure pair
      · exact relaying_reject _
    · exact relaying_reject _

theorem relaying_revoke {codec : Codec} {token : String} : Relaying (revoke codec token) := by
  apply relaying_bind (relaying_act _)
  intro now
  apply relaying_bind (relaying_ofVerdict _)
  intro remaining
  split
  · exact relaying_pure ()
  · exact relaying_call _

/-- Both halves of a logout are tried before either can end it, so that what each has come to is
still to be found among the moments when it does. -/
theorem relaying_endSession {token : Option String} :
    Relaying (service.endSession context token) := by
  unfold endSession
  split
  · exact relaying_reject _
  · next identity _ =>
    apply relaying_bind relaying_enforce
    intro _ past
    rw [Ends, meets_bind, meets_outcome]
    refine Ends.mono (relaying_call _ past) fun past deleted relayedDelete => ?_
    dsimp only
    rw [meets_bind, meets_outcome]
    refine Ends.mono (Ends.and ((?_ : Relaying _) past) ((only_of_forall (fun _ => trivial) _).ends past)) ?_
    · cases token with
      | some token => exact relaying_revoke
      | none => exact relaying_pure ()
    · rintro _ revoked ⟨relayedRevoke, more, rfl, _⟩
      dsimp only
      rw [meets_bind, meets_ofOutcome]
      cases deleted with
      | error failure => exact (relayedDelete.append more).of_error
      | ok _ => exact relayedRevoke

theorem relaying_checkAccess {token : String} : Relaying (service.checkAccess token) := by
  apply relaying_bind relaying_verifyKind
  intro claims
  apply relaying_bind (relaying_call _)
  intro revoked
  split
  · exact relaying_reject _
  · exact relaying_pure _

theorem relaying_authorize {token : String} : Relaying (service.authorize context token) := by
  intro past
  refine ends_authorize (Ends.mono (relaying_checkAccess past) fun past outcome relayed record _ => ?_)
  exact relayed.append record

end Service

/-- **Where a call ends with the failure of a store, a store gave it.** -/
theorem Call.relaying (service : Service) (call : Call) : Relaying (call.operation service) := by
  cases call with
  | login context identity => exact Service.relaying_login
  | providerLogin context callback =>
    apply relaying_bind (relaying_observeFailure Service.relaying_resolve)
    intro user
    exact relaying_bind Service.relaying_login fun _ => relaying_pure _
  | reissue context presented =>
    apply relaying_bind (relaying_observeFailure Service.relaying_verifyKind)
    intro claims
    exact relaying_observe Service.relaying_rotate
  | logout context token => exact relaying_observe Service.relaying_endSession
  | authorize context token => exact Service.relaying_authorize

/-! ## Moments of a run -/

/-- Where allowed actions keep an invariant, and give what is possible as long as it holds, a program
that comes to an end has done moments that are possible. -/
theorem Program.Meets.of_invariant {σ α : Type} {handler : Handler σ} {allowed : Action → Prop}
    {invariant : σ → Prop} {possible : Moment → Prop} {goal : List Moment → α → Prop}
    {program : Program α} {past : List Moment} {state after : σ} {value : α}
    (kept : ∀ {action : Action} {state after : σ} {result : action.Result}, allowed action →
      invariant state → handler action state = (.ok result, after) →
        invariant after ∧ possible ⟨action, result⟩)
    (meets : program.Meets (fun _ => allowed) goal past) (seen : ∀ moment ∈ past, possible moment)
    (holds : invariant state) (ran : program.run handler state = (.ok value, after)) :
    ∃ moments, goal moments value ∧ ∀ moment ∈ moments, possible moment := by
  induction program generalizing past state with
  | done value =>
    cases ran
    exact ⟨past, meets, seen⟩
  | perform action next ih =>
    rw [run] at ran
    cases performed : handler action state with
    | mk result middle =>
      rw [performed] at ran
      cases result with
      | error calendarEnd => cases ran
      | ok result =>
        obtain ⟨later, here⟩ := kept meets.1 holds performed
        exact ih result (meets.2 result) (List.forall_mem_cons.2 ⟨here, seen⟩) later ran

/-- What holds at the end of an operation holds of possible moments. -/
theorem Operation.Ends.of_invariant {α : Type} {allowed : Action → Prop} {invariant : World → Prop}
    {possible : Moment → Prop} {goal : List Moment → Except Failure α → Prop}
    {operation : Operation α} {world after : World} {outcome : Except Failure α}
    (kept : ∀ {action : Action} {world after : World} {result : action.Result}, allowed action →
      invariant world → world.perform action = (.ok result, after) →
        invariant after ∧ possible ⟨action, result⟩)
    (only : operation.Only allowed) (ends : operation.Ends goal []) (holds : invariant world)
    (ran : operation.on world = (.ok outcome, after)) :
    ∃ moments, goal moments outcome ∧ ∀ moment ∈ moments, possible moment := by
  have meets : operation.Meets (fun _ => allowed) goal [] :=
    only.meets ends (fun _ _ isAllowed => isAllowed) fun _ _ _ holds => holds
  exact Program.Meets.of_invariant kept meets (List.forall_mem_nil _) holds ran

end SignOn.Engine
