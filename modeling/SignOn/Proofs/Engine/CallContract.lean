import SignOn.Proofs.Engine.Crowd
import SignOn.Proofs.Engine.SessionEffects

/-!
# Contracts of calls

What a call does and how it ends is told by what it has done so far, whatever the world gives it.
No call writes a session but for a value that it has just issued, and no call writes a second time
(`Call.Guard`).  A reissue succeeds exactly where its swap has found the presented value, and
every failure of it has a cause among what it has seen (`ReissueEnds`).

Nothing is assumed of the stores, so `Call.meets` holds beside other calls and with stores that
fail.
-/

namespace SignOn.Engine

set_option autoImplicit false

open Operation

/-! ## Moments -/

namespace Moment

/-- The clock is read. -/
@[reducible] def clock (now : Instant) : Moment := ⟨.readClock, now⟩

/-- An identifier is drawn. -/
@[reducible] def drawn (tokenId : String) : Moment := ⟨.drawTokenId, tokenId⟩

/-- A store answers a call. -/
@[reducible] def answered (call : StoreCall) (answer : call.Answer) : Moment :=
  ⟨.store call, .answered answer⟩

end Moment

/-- The action writes the session of an identity. -/
def Action.WritesSession : Action → Prop
  | .store (.writeSession _ _ _) | .store (.replaceSession _ _ _ _) => True
  | _ => False

/-- Moments at which the sessions are left alone. -/
def SpareSessions (moments : List Moment) : Prop :=
  ∀ moment ∈ moments, moment.action.SparesSessions

theorem not_writesSession {action : Action} (spares : action.SparesSessions) :
    ¬ action.WritesSession := by
  intro writes
  unfold Action.WritesSession at writes
  split at writes
  · exact spares
  · exact spares
  · exact writes

/-! ## What calls have seen and done -/

namespace Service

variable (service : Service) (past : List Moment)

/-- The call has issued a value as the refresh credential of an identity. -/
def HasIssued (identity : UserId) (value : String) : Prop :=
  service.Issues ∧ ∃ now tokenId, .clock now ∈ past ∧ .drawn tokenId ∈ past ∧
    value = service.codec.encode (service.refreshClaims now identity tokenId)

/-- The call has verified a value as a refresh credential of an identity. -/
def HasVerified (identity : UserId) (value : String) : Prop :=
  ∃ now claims, .clock now ∈ past ∧
    service.codec.verifyKind now value .refresh = .ok claims ∧ claims.userId = identity

end Service

/-- The call has not yet tried to write a session. -/
def HasNotWritten (past : List Moment) : Prop :=
  ∀ moment ∈ past, ¬ moment.action.WritesSession

/-- The call has swapped a value for another one. -/
def HasSwapped (value fresh : String) (past : List Moment) : Prop :=
  ∃ owner lifetime, .answered (.replaceSession owner value fresh lifetime) true ∈ past

/-- A call is kept from going on: its budget is used up, or a store fails or is late. -/
def IsHindrance : Failure → Prop
  | .rejected (.rateLimitExceeded _) | .storage _ | .timeout _ => True
  | _ => False

section Append

variable {service : Service} {past more : List Moment} {identity : UserId} {value fresh : String}

theorem Service.HasIssued.append (issued : service.HasIssued past identity value)
    (more : List Moment) :
    service.HasIssued (more ++ past) identity value := by
  obtain ⟨issues, now, tokenId, read, drew, same⟩ := issued
  exact ⟨issues, now, tokenId, List.mem_append_right more read, List.mem_append_right more drew, same⟩

theorem Service.HasVerified.append (verified : service.HasVerified past identity value)
    (more : List Moment) : service.HasVerified (more ++ past) identity value := by
  obtain ⟨now, claims, read, accepted, named⟩ := verified
  exact ⟨now, claims, List.mem_append_right more read, accepted, named⟩

theorem hasNotWritten_nil : HasNotWritten [] :=
  List.forall_mem_nil _

theorem HasNotWritten.append (unwritten : HasNotWritten past) (spare : SpareSessions more) :
    HasNotWritten (more ++ past) := by
  intro moment member
  rcases List.mem_append.1 member with later | earlier
  · exact not_writesSession (spare moment later)
  · exact unwritten moment earlier

theorem HasNotWritten.cons {moment : Moment} (unwritten : HasNotWritten past)
    (harmless : ¬ moment.action.WritesSession) : HasNotWritten (moment :: past) := by
  intro other member
  rcases List.mem_cons.1 member with rfl | earlier
  · exact harmless
  · exact unwritten other earlier

theorem HasNotWritten.not_hasSwapped (unwritten : HasNotWritten past) :
    ¬ HasSwapped value fresh past :=
  fun ⟨_, _, swapped⟩ => unwritten _ swapped trivial

end Append

/-! ## How a reissue ends -/

/-- What makes a reissue of a value fail. -/
inductive Cause (service : Service) (value : String) (past : List Moment) : Failure → Prop where
  | hindered {failure : Failure} (hindrance : IsHindrance failure) : Cause service value past failure
  | unverified {now : Instant} {rejection : Rejection} (read : .clock now ∈ past)
      (turnedDown : service.codec.verifyKind now value .refresh = .error rejection) :
      Cause service value past (.rejected rejection)
  | absent {owner : UserId} (verified : service.HasVerified past owner value)
      (found : .answered (.readSession owner) none ∈ past) :
      Cause service value past (.rejected .sessionNotFound)
  | stale {owner : UserId} {session : Session} (verified : service.HasVerified past owner value)
      (found : .answered (.readSession owner) (some session) ∈ past)
      (differs : session.refreshToken ≠ value) :
      Cause service value past (.rejected .refreshMismatch)
  | lost {owner : UserId} {fresh : String} {lifetime : Duration}
      (verified : service.HasVerified past owner value)
      (kept : .answered (.replaceSession owner value fresh lifetime) false ∈ past) :
      Cause service value past (.rejected .refreshMismatch)
  | unissued {message : String} (cannot : ¬ service.Issues) :
      Cause service value past (.internal message)

/-- A reissue of a value succeeds where it has swapped the value for that of its pair, and otherwise
fails for a cause. -/
inductive ReissueEnds (service : Service) (value : String) (past : List Moment) :
    Except Failure TokenPair → Prop where
  | swapped {pair : TokenPair} (swapped : HasSwapped value pair.refreshToken past) :
      ReissueEnds service value past (.ok pair)
  | failed {failure : Failure} (cause : Cause service value past failure)
      (kept : ∀ fresh, ¬ HasSwapped value fresh past) :
      ReissueEnds service value past (.error failure)

section Append

variable {service : Service} {past more : List Moment} {value : String}

theorem Cause.append {failure : Failure} (cause : Cause service value past failure)
    (more : List Moment) : Cause service value (more ++ past) failure := by
  cases cause with
  | hindered hindrance => exact .hindered hindrance
  | unverified read turnedDown => exact .unverified (List.mem_append_right more read) turnedDown
  | absent verified found => exact .absent (verified.append more) (List.mem_append_right more found)
  | stale verified found differs =>
    exact .stale (verified.append more) (List.mem_append_right more found) differs
  | lost verified kept => exact .lost (verified.append more) (List.mem_append_right more kept)
  | unissued cannot => exact .unissued cannot

theorem HasSwapped.of_append {fresh : String} (swapped : HasSwapped value fresh (more ++ past))
    (spare : SpareSessions more) : HasSwapped value fresh past := by
  obtain ⟨owner, lifetime, member⟩ := swapped
  rcases List.mem_append.1 member with later | earlier
  · exact (spare _ later).elim
  · exact ⟨owner, lifetime, earlier⟩

theorem ReissueEnds.append {outcome : Except Failure TokenPair}
    (ends : ReissueEnds service value past outcome) (spare : SpareSessions more) :
    ReissueEnds service value (more ++ past) outcome := by
  cases ends with
  | swapped swapped =>
    obtain ⟨owner, lifetime, member⟩ := swapped
    exact .swapped ⟨owner, lifetime, List.mem_append_right more member⟩
  | failed cause kept =>
    exact .failed (cause.append more) fun fresh swapped => kept fresh (swapped.of_append spare)

end Append

/-! ## The contract of a call -/

namespace Call

/-- The call is a reissue that presents a value, up to the blanks around it. -/
def Presents (value : String) : Call → Prop
  | .reissue _ presented => Text.trim presented = value
  | _ => False

/-- A call writes a session only with a value that it has issued, and only once; a swap is for a
value that the call presents and has verified. -/
def Guard (service : Service) (call : Call) (past : List Moment) : Action → Prop
  | .store (.writeSession owner value lifetime) =>
      service.HasIssued past owner value ∧ HasNotWritten past ∧
        lifetime = service.codec.refreshLifetime
  | .store (.replaceSession owner expected value lifetime) =>
      service.HasIssued past owner value ∧ HasNotWritten past ∧
        lifetime = service.codec.refreshLifetime ∧ call.Presents expected ∧
        service.HasVerified past owner expected
  | _ => True

/-- A reissue ends as its value and what it has seen say. -/
def Ends (service : Service) : (call : Call) → List Moment → Except Failure call.Answer → Prop
  | .reissue _ presented, past, outcome => ReissueEnds service (Text.trim presented) past outcome
  | _, _, _ => True

theorem guard_of_not_writesSession {service : Service} {call : Call} {action : Action}
    (harmless : ¬ action.WritesSession) (past : List Moment) : call.Guard service past action := by
  unfold Guard
  split
  · exact (harmless trivial).elim
  · exact (harmless trivial).elim
  · trivial

/-- Whoever writes a session has not written one before. -/
theorem hasNotWritten_of_guard {service : Service} {call : Call} {past : List Moment}
    {action : Action} (guard : call.Guard service past action) (writes : action.WritesSession) :
    HasNotWritten past := by
  unfold Guard at guard
  split at guard
  · exact guard.2.1
  · exact guard.2.1
  · next notWrite notReplace =>
    unfold Action.WritesSession at writes
    split at writes
    · exact absurd rfl (notWrite _ _ _)
    · exact absurd rfl (notReplace _ _ _ _)
    · exact writes.elim

end Call

/-! ## The parts of a call -/

section Parts

variable {α : Type} {service : Service} {operation : Audit.Operation} {context : Context}
  {identity : UserId} {past : List Moment}

theorem publishNow_succeeds {actor : Option UserId} {level : Audit.Level} {message : String} :
    (publishNow operation actor context level message).Meets (fun _ _ => True)
      (fun _ outcome => outcome = .ok ()) past := by
  rw [publishNow, meets_bind, meets_act]
  refine ⟨trivial, ?_⟩
  intro now
  exact ⟨trivial, fun _ => rfl⟩

theorem recordFailure_succeeds {failure : Failure} :
    (recordFailure operation context failure).Meets (fun _ _ => True)
      (fun _ outcome => outcome = .ok ()) past := by
  unfold recordFailure
  split
  · exact publishNow_succeeds
  · exact publishNow_succeeds

theorem recordOutcome_succeeds {outcome : Except Failure α} :
    (recordOutcome operation context outcome).Meets (fun _ _ => True)
      (fun _ recorded => recorded = .ok ()) past := by
  cases outcome with
  | ok value => exact publishNow_succeeds
  | error failure => exact recordFailure_succeeds

/-- Only a hindrance makes the check of a limit fail. -/
theorem checkLimit_hindered {limits : Settings.RateLimits} {limited : Settings.LimitedOperation} :
    (checkLimit limits limited identity).Meets (fun _ _ => True)
      (fun _ outcome => ∀ failure, outcome = .error failure → IsHindrance failure) past := by
  unfold checkLimit
  split
  · exact nofun
  · rw [meets_bind, allow, meets_bind, meets_call]
    refine ⟨trivial, ?_⟩
    intro reply
    cases reply with
    | answered count =>
      dsimp only
      rw [meets_pure]
      dsimp only
      split
      · exact nofun
      · rintro failure same
        cases same
        trivial
    | failed error =>
      rintro failure same
      cases same
      trivial
    | timedOut =>
      rintro failure same
      cases same
      trivial

theorem enforce_hindered {limited : Settings.LimitedOperation} :
    (service.enforce context limited identity).Meets (fun _ _ => True)
      (fun _ outcome => ∀ failure, outcome = .error failure → IsHindrance failure) past := by
  rw [Service.enforce, meets_bind, meets_outcome]
  apply checkLimit_hindered.mono (fun _ _ allowed => allowed)
  intro past outcome hindered
  dsimp only
  split
  · rw [meets_bind]
    apply publishNow_succeeds.mono (fun _ _ allowed => allowed)
    rintro past _ rfl
    exact hindered
  · exact hindered

/-- What is issued carries the claims of the instant that was read and of the identifier that was
drawn. -/
theorem issue_issues {kind : TokenKind} {lifetime : Duration} :
    (service.issue identity kind lifetime).Meets (fun _ _ => True)
      (fun past outcome =>
        (∃ value, outcome = .ok value ∧ (lifetime.seconds : Int) ≤ Codec.lastSecond ∧
          ∃ now tokenId, .clock now ∈ past ∧ .drawn tokenId ∈ past ∧
            value = service.codec.encode (Codec.issuedClaims now identity kind lifetime tokenId)) ∨
        ∃ message, outcome = .error (.internal message) ∧
          ¬ (lifetime.seconds : Int) ≤ Codec.lastSecond) past := by
  rw [Service.issue, meets_bind, meets_act]
  refine ⟨trivial, ?_⟩
  intro now
  dsimp only
  rw [meets_bind, meets_act]
  refine ⟨trivial, ?_⟩
  intro tokenId
  dsimp only
  rw [meets_ofOutcome]
  by_cases fits : (lifetime.seconds : Int) ≤ Codec.lastSecond
  · refine Or.inl ⟨_, (Codec.issue_eq_ok_iff _).2 ⟨fits, rfl⟩, fits, now, tokenId, ?_, ?_, rfl⟩
    · exact List.mem_cons_of_mem _ List.mem_cons_self
    · exact List.mem_cons_self
  · refine Or.inr ⟨kind.name ++ " lifetime out of range", ?_, fits⟩
    rw [Codec.issue, if_pos (Int.not_le.1 fits)]

/-- A pair is issued unless a lifetime is too long. -/
theorem issuePair_issues :
    (service.issuePair identity).Meets (fun _ _ => True)
      (fun past outcome =>
        (∃ pair, outcome = .ok pair ∧ service.HasIssued past identity pair.refreshToken) ∨
        ∃ message, outcome = .error (.internal message) ∧ ¬ service.Issues) past := by
  rw [Service.issuePair, meets_bind]
  apply issue_issues.mono (fun _ _ allowed => allowed)
  rintro past _ (⟨access, rfl, accessFits, _⟩ | ⟨message, rfl, long⟩)
  · dsimp only
    rw [meets_bind]
    apply issue_issues.mono (fun _ _ allowed => allowed)
    rintro past _ (⟨refresh, rfl, refreshFits, issued⟩ | ⟨message, rfl, long⟩)
    · exact Or.inl ⟨⟨access, refresh, service.codec.refreshMaxAge⟩, rfl, ⟨accessFits, refreshFits⟩,
        issued⟩
    · exact Or.inr ⟨message, rfl, fun issues => long issues.refresh⟩
  · exact Or.inr ⟨message, rfl, fun issues => long issues.access⟩

/-! ### Contracts with any guard -/

variable {guard : List Moment → Action → Prop}

theorem meets_observe {goal : List Moment → Except Failure α → Prop} {body : Operation α}
    (guards : ∀ past action, action.SparesSessions → guard past action)
    (inside : body.Meets guard
      (fun past outcome => ∀ more, SpareSessions more → goal (more ++ past) outcome) past) :
    (observe operation context body).Meets guard goal past := by
  rw [observe, meets_bind, meets_outcome]
  apply inside.mono (fun _ _ allowed => allowed)
  intro past outcome ends
  dsimp only
  rw [meets_bind]
  apply (only_recordOutcome Service.routine_sparesSessions.recording).meets recordOutcome_succeeds guards
  rintro more _ spare rfl
  exact ends more spare

theorem meets_observeFailure {goal : List Moment → Except Failure α → Prop} {body : Operation α}
    (guards : ∀ past action, action.SparesSessions → guard past action)
    (inside : body.Meets guard
      (fun past outcome => ∀ more, SpareSessions more → goal (more ++ past) outcome) past) :
    (observeFailure operation context body).Meets guard goal past := by
  rw [observeFailure, meets_bind, meets_outcome]
  apply inside.mono (fun _ _ allowed => allowed)
  intro past outcome ends
  cases outcome with
  | ok value => exact ends [] (List.forall_mem_nil _)
  | error failure =>
    dsimp only
    rw [meets_bind]
    apply (only_recordFailure Service.routine_sparesSessions.recording).meets recordFailure_succeeds guards
    rintro more _ spare rfl
    exact ends more spare

theorem meets_enforce {limited : Settings.LimitedOperation}
    {goal : List Moment → Except Failure Unit → Prop}
    (guards : ∀ past action, action.SparesSessions → guard past action)
    (admitted : ∀ more, SpareSessions more → goal (more ++ past) (.ok ()))
    (hindered : ∀ more failure, SpareSessions more → IsHindrance failure →
      goal (more ++ past) (.error failure)) :
    (service.enforce context limited identity).Meets guard goal past := by
  apply (only_enforce Service.routine_sparesSessions).meets enforce_hindered guards
  intro more outcome spare hindrance
  cases outcome with
  | ok _ => exact admitted more spare
  | error failure => exact hindered more failure spare (hindrance failure rfl)

theorem meets_issuePair {goal : List Moment → Except Failure TokenPair → Prop}
    (guards : ∀ past action, action.SparesSessions → guard past action)
    (issued : ∀ more pair, SpareSessions more →
      service.HasIssued (more ++ past) identity pair.refreshToken → goal (more ++ past) (.ok pair))
    (unissued : ∀ more message, SpareSessions more → ¬ service.Issues →
      goal (more ++ past) (.error (.internal message))) :
    (service.issuePair identity).Meets guard goal past := by
  apply (Service.only_issuePair trivial trivial).meets issuePair_issues guards
  rintro more _ spare (⟨pair, rfl, has⟩ | ⟨message, rfl, cannot⟩)
  · exact issued more pair spare has
  · exact unissued more message spare cannot

end Parts

/-! ## Every call keeps its contract -/

namespace Call

variable {service : Service} {call : Call} {context : Context} {identity : UserId}
  {past : List Moment}

theorem guard_of_sparesSessions (past : List Moment) (action : Action)
    (spares : action.SparesSessions) : call.Guard service past action :=
  guard_of_not_writesSession (not_writesSession spares) past

/-- A login writes the session of its identity with the value it has issued. -/
theorem meets_login (unwritten : HasNotWritten past)
    {goal : List Moment → Except Failure TokenPair → Prop}
    (goals : ∀ past outcome, goal past outcome) :
    (service.login context identity).Meets (call.Guard service) goal past := by
  apply meets_observe guard_of_sparesSessions
  rw [Service.startSession, meets_bind]
  refine meets_enforce guard_of_sparesSessions ?_ fun _ _ _ _ _ _ => goals _ _
  intro counting spareCounting
  dsimp only
  rw [meets_bind]
  refine meets_issuePair guard_of_sparesSessions ?_ fun _ _ _ _ _ _ => goals _ _
  intro issuing pair spareIssuing issued
  dsimp only
  rw [meets_bind]
  refine (meets_call _).2 ⟨⟨issued, (unwritten.append spareCounting).append spareIssuing, rfl⟩, ?_⟩
  intro reply
  cases reply with
  | answered _ => exact fun _ _ => goals _ _
  | failed _ => exact fun _ _ => goals _ _
  | timedOut => exact fun _ _ => goals _ _

theorem meets_providerLogin {callback : Callback} (unwritten : HasNotWritten past) :
    (service.providerLogin context callback).Meets (call.Guard service) (fun _ _ => True) past := by
  rw [Service.providerLogin, meets_bind]
  have spares : (observeFailure .login context (resolve callback)).Only Action.SparesSessions :=
    only_observeFailure Service.routine_sparesSessions.recording
      (Service.only_resolve Service.routine_sparesSessions (fun _ _ => trivial) fun _ => trivial)
  apply spares.meets (only_of_forall (fun _ => trivial) _ past) guard_of_sparesSessions
  intro resolving outcome spare _
  cases outcome with
  | error failure => trivial
  | ok user =>
    dsimp only
    rw [meets_bind]
    apply meets_login (unwritten.append spare)
    intro past outcome
    cases outcome <;> trivial

/-- A swap puts the value that it issues in the place of the given one, or fails for a cause. -/
theorem meets_swap {value : String} (presents : call.Presents value)
    (verified : service.HasVerified past identity value) (unwritten : HasNotWritten past) :
    (service.swap identity value).Meets (call.Guard service) (ReissueEnds service value) past := by
  rw [Service.swap, meets_bind]
  refine meets_issuePair guard_of_sparesSessions ?_ ?_
  · intro issuing pair spare issued
    have verified := verified.append issuing
    have unwritten := unwritten.append spare
    generalize issuing ++ past = past at issued verified unwritten
    dsimp only
    rw [meets_bind]
    refine (meets_call _).2 ⟨⟨issued, unwritten, rfl, presents, verified⟩, ?_⟩
    intro reply
    -- The swap is the one write of a session, so its reply tells whether the value has been swapped.
    have unswapped (differs : reply ≠ .answered true) (fresh : String) : ¬ HasSwapped value fresh
        (⟨.store (.replaceSession identity value pair.refreshToken
          service.codec.refreshLifetime), reply⟩ :: past) := by
      rintro ⟨owner, lifetime, member⟩
      rcases List.mem_cons.1 member with now | earlier
      · cases now
        exact differs rfl
      · exact unwritten _ earlier trivial
    have verified := verified.append [⟨.store (.replaceSession identity value pair.refreshToken
      service.codec.refreshLifetime), reply⟩]
    cases reply with
    | failed error => exact .failed (.hindered trivial) (unswapped nofun)
    | timedOut => exact .failed (.hindered trivial) (unswapped nofun)
    | answered replaced =>
      cases replaced with
      | true => exact .swapped ⟨_, _, List.mem_cons_self⟩
      | false => exact .failed (.lost verified List.mem_cons_self) (unswapped nofun)
  · intro issuing message spare cannot
    exact .failed (.unissued cannot) fun fresh => (unwritten.append spare).not_hasSwapped

/-- A rotation swaps the value it was given, or fails for a cause. -/
theorem meets_rotate {value : String} (presents : call.Presents value)
    (verified : service.HasVerified past identity value) (unwritten : HasNotWritten past) :
    (service.rotate context identity value).Meets (call.Guard service)
      (ReissueEnds service value) past := by
  rw [Service.rotate_eq, meets_bind]
  refine meets_enforce guard_of_sparesSessions ?_ ?_
  · intro counting spareCounting
    have verified := verified.append counting
    have unwritten := unwritten.append spareCounting
    generalize counting ++ past = past at verified unwritten
    dsimp only
    rw [meets_bind]
    refine (meets_call _).2 ⟨trivial, ?_⟩
    intro reply
    have unwritten : HasNotWritten (⟨.store (.readSession identity), reply⟩ :: past) :=
      unwritten.cons id
    have kept : ∀ fresh, ¬ HasSwapped value fresh (⟨.store (.readSession identity), reply⟩ :: past) :=
      fun fresh => unwritten.not_hasSwapped
    have verified := verified.append [⟨.store (.readSession identity), reply⟩]
    cases reply with
    | failed error => exact .failed (.hindered trivial) kept
    | timedOut => exact .failed (.hindered trivial) kept
    | answered found =>
      cases found with
      | none => exact .failed (.absent verified List.mem_cons_self) kept
      | some session =>
        dsimp only
        rw [Service.rotateFrom]
        split
        · exact meets_swap presents verified unwritten
        · next differs =>
          exact .failed (.stale verified List.mem_cons_self differs) kept
  · intro counting failure spare hindrance
    exact .failed (.hindered hindrance) fun fresh => (unwritten.append spare).not_hasSwapped

theorem meets_reissue {presented : String} (presents : call.Presents (Text.trim presented)) :
    (service.reissue context presented).Meets (call.Guard service)
      (ReissueEnds service (Text.trim presented)) [] := by
  rw [Service.reissue, meets_bind]
  apply meets_observeFailure guard_of_sparesSessions
  rw [Service.verifyKind, meets_bind]
  refine (meets_act _).2 ⟨trivial, ?_⟩
  intro now
  dsimp only
  rw [meets_ofVerdict]
  intro more spare
  have read : .clock now ∈ more ++ [.clock now] := List.mem_append_right more List.mem_cons_self
  have unwritten : HasNotWritten (more ++ [.clock now]) := by
    refine HasNotWritten.append ?_ spare
    exact hasNotWritten_nil.cons id
  generalize more ++ [.clock now] = past at read unwritten
  cases accepted : service.codec.verifyKind now (Text.trim presented) .refresh with
  | error rejection =>
    exact .failed (.unverified read accepted) fun fresh => unwritten.not_hasSwapped
  | ok claims =>
    apply meets_observe guard_of_sparesSessions
    refine (meets_rotate presents ⟨now, claims, read, accepted, rfl⟩ unwritten).mono
      (fun _ _ allowed => allowed) ?_
    intro past outcome ends more spare
    exact ends.append spare

/-- A call that writes no session keeps its contract. -/
theorem meets_of_only {α : Type} {operation : Operation α}
    (only : operation.Only fun action => ¬ action.WritesSession) :
    operation.Meets (call.Guard service) (fun _ _ => True) past :=
  only.meets (only_of_forall (fun _ => trivial) operation past)
    (fun past _ harmless => guard_of_not_writesSession harmless past) fun _ _ _ _ => trivial

theorem routine_not_writesSession : Routine fun action => ¬ action.WritesSession :=
  ⟨id, id, fun _ => id, fun _ _ => id⟩

theorem only_logoutAlong {turns : List Bool} {token : Option String} :
    (service.logoutAlong turns context token).Only fun action => ¬ action.WritesSession := by
  apply only_observe routine_not_writesSession.recording
  unfold Service.endSessionAlong
  split
  · exact only_reject _
  · apply only_bind (only_enforce routine_not_writesSession)
    intro _
    refine only_bind ?_ ?_
    · refine Program.only_bind (Program.only_beside (only_call id) ?_ turns) ?_
      · cases token with
        | none => exact only_pure ()
        | some text => exact Service.only_revoke routine_not_writesSession.clock fun _ => id
      · exact fun both past => trivial
    · intro both
      exact only_bind (only_ofOutcome _) fun _ => only_ofOutcome _

/-- Every call keeps its contract, whatever its actions give. -/
theorem meets (service : Service) (turns : List Bool) (call : Call) :
    (call.along service turns).Meets (call.Guard service) (call.Ends service) [] := by
  cases call with
  | login context identity => exact meets_login hasNotWritten_nil fun _ _ => trivial
  | providerLogin context callback => exact meets_providerLogin hasNotWritten_nil
  | reissue context presented => exact meets_reissue rfl
  | logout context token => exact meets_of_only only_logoutAlong
  | authorize context token =>
    exact meets_of_only (Service.only_authorize routine_not_writesSession id)

end Call

end SignOn.Engine
