import SignOn.Proofs.Engine.Marks
import SignOn.Proofs.Text.Hex

/-!
# Access checks are exact

An access check accepts a text exactly when it verifies as an access credential and no logout that
its budget admitted was given the same text, with whatever blanks around it.  The credential
expires with a whole second and its mark lapses at that very second, so there is no instant at
which a revoked credential is accepted: it is turned down as revoked before its expiry and as
expired from then on (`Run.authorize_exact`).

Marks are found by a hash.  That it tells the presented text from the revoked ones is a hypothesis.
-/

namespace SignOn.Engine

set_option autoImplicit false

open Operation Settings Service

/-! ## Marks and texts -/

/-- The texts that a run has revoked have no blanks around them. -/
theorem trim_of_mem_revokedTexts {service : Service} {past : List Deed} {text : String}
    (revoked : text ∈ revokedTexts service past) : Text.trim text = text := by
  obtain ⟨⟨call, before, outcome⟩, _, same⟩ := List.mem_filterMap.1 revoked
  unfold Deed.revoked at same
  split at same
  · split at same
    · obtain ⟨given, _, rfl⟩ := Option.map_eq_some_iff.1 same
      exact Text.trim_trim given
    · cases same
  · cases same

/-- Texts with the same mark have the same hash. -/
theorem sha256_of_markKey {first second : String} (same : markKey first = markKey second) :
    Hash.sha256 (Text.utf8 (Text.trim first)) = Hash.sha256 (Text.utf8 (Text.trim second)) := by
  have characters := congrArg String.toList same
  rw [markKey, markKey, String.toList_append, String.toList_append, String.toList_ofList,
    String.toList_ofList] at characters
  exact Text.hexOfBytes_injective (List.append_cancel_left characters)

/-! ## A check in memory -/

section Check

variable {service : Service} {world : World} {presented : String}

theorem on_isMarked (key : String) (world : World) :
    (call (.isMarked key)).on world =
      (.ok (.ok (world.keyValue.liveAt world.clock key).isSome),
        { world with keyValue := (world.keyValue.isPresent world.clock key).2 }) := by
  apply on_call_answered
  rw [World.performCall, World.answer, Store.KeyValue.isPresent_fst]

theorem on_checkAccess_unverified {rejection : Rejection}
    (unverified : service.codec.verifyKind world.clock presented .access = .error rejection) :
    ((service.checkAccess presented).on world).1 = .ok (.error (.rejected rejection)) := by
  have failed : (service.verifyKind presented .access).on world =
      (.ok (.error (.rejected rejection)), world) := by
    rw [on_verifyKind, unverified]
    rfl
  rw [checkAccess, on_bind_error failed]

/-- A text that verifies is turned down if there is a live mark for it. -/
theorem on_checkAccess_verified {claims : Claims}
    (verified : service.codec.verifyKind world.clock presented .access = .ok claims) :
    ((service.checkAccess presented).on world).1 =
      .ok (if (world.keyValue.liveAt world.clock (markKey presented)).isSome then
        .error (.rejected .unauthenticated) else .ok claims.userId) := by
  have read : (service.verifyKind presented .access).on world = (.ok (.ok claims), world) := by
    rw [on_verifyKind, verified]
    rfl
  have asked : (isRevoked presented).on world = _ := on_isMarked (markKey presented) world
  rw [checkAccess, on_bind_ok read, on_bind_ok asked]
  cases (world.keyValue.liveAt world.clock (markKey presented)).isSome <;> rfl

theorem on_authorize (context : Context) :
    ((service.authorize context presented).on world).1 =
      ((service.checkAccess presented).on world).1 := by
  cases checked : (service.checkAccess presented).on world with
  | mk result after =>
    cases result with
    | error calendarEnd => rw [authorize, on_bind_broken (on_outcome_broken checked)]
    | ok outcome =>
      rw [authorize, on_bind_ok (on_outcome_ok checked)]
      cases outcome with
      | ok identity =>
        obtain ⟨event, recorded⟩ : ∃ event, (recordOutcome .accessCheck (context.withActor identity)
            (.ok identity : Except Failure UserId)).on after = (.ok (.ok ()), after.record event) :=
          on_recordOutcome
        dsimp only
        rw [on_bind_ok recorded, on_ofOutcome]
      | error failure =>
        obtain ⟨event, recorded⟩ : ∃ event, (recordFailure .accessCheck context failure).on after =
            (.ok (.ok ()), after.record event) := on_recordFailure
        dsimp only
        rw [on_bind_ok recorded, on_ofOutcome]

end Check

/-! ## Checks in a run -/

section Run

variable {service : Service} {past : List Deed} {world : World}

/-- There is a live mark for a text that verifies exactly when the run has revoked it. -/
theorem Run.isMarked_iff (run : Run service past world) {presented : String}
    (injective : ∀ other ∈ revokedTexts service past,
      Hash.sha256 (Text.utf8 other) = Hash.sha256 (Text.utf8 (Text.trim presented)) →
        other = Text.trim presented)
    {claims : Claims} (verified : service.codec.verify world.clock presented = .ok claims)
    (dated : (expiryOf claims).isRepresentable = true) :
    (world.keyValue.liveAt world.clock (markKey presented)).isSome = true ↔
      Text.trim presented ∈ revokedTexts service past := by
  obtain ⟨carries, live⟩ := Codec.verify_eq_ok_iff.1 verified
  have holds := run.markedFor (Text.trim presented)
  have alone : ∀ other ∈ revokedTexts service past, markKey other = markKey (Text.trim presented) →
      other = Text.trim presented := by
    intro other revoked same
    apply injective other revoked
    have hashes := sha256_of_markKey same
    rwa [trim_of_mem_revokedTexts revoked, Text.trim_trim] at hashes
  rw [← markKey_trim presented]
  constructor
  · intro marked
    by_contra unrevoked
    have absent := holds.unmarked fun other revoked same => by
      rw [alone other revoked same] at revoked
      exact unrevoked revoked
    rw [Store.KeyValue.liveAt, absent] at marked
    cases marked
  · intro revoked
    have before : world.clock < expiryOf claims := Instant.seconds_lt_iff.1 live
    rcases holds.marked revoked claims (Codec.carries_trim.2 carries) dated alone with
      held | ⟨_, lapsed⟩
    · rw [Store.KeyValue.liveAt_eq_some_iff.2 ⟨held, before⟩]
      rfl
    · exact absurd before (Instant.not_lt.2 lapsed)

/-- **Access checks are exact.**  After any run, an access check accepts a text for an identity
exactly when the text, without the blanks around it, verifies as an access credential of the
identity and has not been revoked.  A revoked access credential is turned down as revoked before
the instant of its expiry and as expired from then on. -/
theorem Run.authorize_exact (run : Run service past world) (context : Context) (presented : String)
    (injective : ∀ other ∈ revokedTexts service past,
      Hash.sha256 (Text.utf8 other) = Hash.sha256 (Text.utf8 (Text.trim presented)) →
        other = Text.trim presented)
    (dated : ∀ claims, service.codec.Carries presented claims →
      (expiryOf claims).isRepresentable = true)
    {outcome : Except CalendarEnd (Except Failure UserId)} {after : World}
    (ran : (service.authorize context presented).on world = (outcome, after)) :
    (∀ identity, outcome = .ok (.ok identity) ↔
      (∃ claims,
        service.codec.verifyKind world.clock (Text.trim presented) .access = .ok claims ∧
        claims.userId = identity) ∧
      Text.trim presented ∉ revokedTexts service past) ∧
    (Text.trim presented ∈ revokedTexts service past →
      ∀ claims, service.codec.Carries presented claims → claims.kind = .access →
        outcome = .ok (.error (.rejected
          (if world.clock < expiryOf claims then .unauthenticated else .expiredCredential)))) := by
  have checked : ((service.authorize context presented).on world).1 = _ := on_authorize context
  rw [ran] at checked
  dsimp only at checked
  rw [Codec.verifyKind_trim]
  cases verified : service.codec.verifyKind world.clock presented .access with
  | error rejection =>
    rw [on_checkAccess_unverified verified] at checked
    subst checked
    refine ⟨by simp, ?_⟩
    intro _ claims carries kind
    by_cases before : world.clock < expiryOf claims
    · have accepted : service.codec.verify world.clock presented = .ok claims :=
        Codec.verify_eq_ok_iff.2 ⟨carries, Instant.seconds_lt_iff.2 before⟩
      have told := Codec.verifyKind_eq_ok_iff.2 ⟨accepted, kind⟩
      rw [verified] at told
      cases told
    · have reached : claims.expiresAt ≤ world.clock.seconds :=
        Int.not_lt.1 fun live => before (Instant.seconds_lt_iff.1 live)
      have expired := Codec.verify_of_carries carries reached
      rw [Codec.verifyKind, expired] at verified
      obtain rfl := Except.error.inj verified
      rw [if_neg before]
  | ok claims =>
    obtain ⟨accepted, kind⟩ := Codec.verifyKind_eq_ok_iff.1 verified
    obtain ⟨carries, live⟩ := Codec.verify_eq_ok_iff.1 accepted
    have marked := run.isMarked_iff injective accepted (dated claims carries)
    rw [on_checkAccess_verified verified] at checked
    by_cases revoked : Text.trim presented ∈ revokedTexts service past
    · rw [if_pos (marked.2 revoked)] at checked
      subst checked
      refine ⟨by simp [revoked], ?_⟩
      intro _ others otherwise _
      obtain rfl := carries.unique otherwise
      have before : world.clock < expiryOf claims := Instant.seconds_lt_iff.1 live
      rw [if_pos before]
    · rw [if_neg fun found => revoked (marked.1 found)] at checked
      subst checked
      refine ⟨by simp [revoked], ?_⟩
      intro member
      exact absurd member revoked

/-- The access credential of a first login is turned down after a logout that was given it. -/
theorem Run.authorize_exact_afterLogout :
    ((Sample.service.authorize Sample.nobody Sample.pair.accessToken).on
      ((Call.logout Sample.somebody (some Sample.pair.accessToken)).after Sample.service
        Sample.loggedIn)).1 = .ok (.error (.rejected .unauthenticated)) := by
  have run := Sample.run_login.call (.logout Sample.somebody (some Sample.pair.accessToken))
  have inRange : (Codec.issuedClaims Sample.world.clock Sample.identity .access
      Sample.service.codec.accessLifetime (Sample.world.tokenIds 0)).InRange :=
    Codec.inRange_issuedClaims (by decide)
  have revoked : revokedTexts Sample.service
      [(Call.logout Sample.somebody (some Sample.pair.accessToken)).deed Sample.service
          Sample.loggedIn,
        (Call.login Sample.nobody Sample.identity).deed Sample.service Sample.world] =
      [Text.trim Sample.pair.accessToken] := rfl
  have clock := (Call.logout Sample.somebody (some Sample.pair.accessToken)).clock_after
    Sample.service Sample.loggedIn
  have exact := run.authorize_exact Sample.nobody Sample.pair.accessToken
    (by
      intro other member _
      rw [revoked] at member
      exact List.mem_singleton.1 member)
    (by
      intro claims carries
      obtain ⟨rfl, _⟩ := (Codec.carries_encode _ inRange).1 carries
      decide)
    Prod.mk.eta.symm
  have outcome := exact.2 (by rw [revoked]; exact List.mem_singleton_self _) _
    ((Codec.carries_encode _ inRange).2 ⟨rfl, by decide⟩) rfl
  rw [clock, if_pos (by decide)] at outcome
  exact outcome

end Run

end SignOn.Engine
