import SignOn.Proofs.Engine.Access
import SignOn.Proofs.Engine.Validity

/-!
# What is issued can be revoked

A credential whose expiry is a date of the calendar can be revoked at every instant at which it is
accepted: some time remains of it then, revoking it succeeds whatever the stores hold, and from then
on it is told to be revoked until the second of its expiry, whatever happens to the stores meanwhile
(`issue_revocable`).

Issuing does not ask for such an expiry, but only for a lifetime that is a signed number of sixty-four
bits.  What lives beyond the end of the calendar is issued and accepted all the same; no time that
remains can be told of it, and it cannot be revoked (`issued_undated`).
-/

namespace SignOn.Engine

set_option autoImplicit false

open Operation Settings Service

/-! ## While a mark is kept -/

section Meantime

variable {codec : Codec} {token : String} {claims : Claims} {start world : World}

/-- What can happen between the revocation of a text and a question about it: actions that put
nothing at the key of its mark, calls of services, further revocations, sweeps, and time that
passes.  Whatever else is revoked meanwhile has a key of its own. -/
inductive Meantime (codec : Codec) (token : String) (start : World) : World → Prop where
  | start : Meantime codec token start start
  | act {world : World} (past : Meantime codec token start world) {action : Action}
      (spares : action.SparesKey (markKey token)) :
      Meantime codec token start (world.perform action).2
  | call {world : World} (past : Meantime codec token start world) {service : Service}
      (ours : service.codec = codec) {call : Call}
      (apart : ∀ text, (call.deed service world).revoked service = some text →
        markKey text = markKey token → text = Text.trim token) :
      Meantime codec token start (call.after service world)
  | revoke {world : World} (past : Meantime codec token start world) {other : String}
      (apart : markKey other = markKey token → Text.trim other = Text.trim token) :
      Meantime codec token start ((revoke codec other).on world).2
  | sweep {world : World} (past : Meantime codec token start world) :
      Meantime codec token start world.sweep
  | wait {world : World} (past : Meantime codec token start world) {later : Instant}
      (ordered : world.clock ≤ later) (within : later.isRepresentable = true) :
      Meantime codec token start (world.waitUntil later)

theorem Meantime.isRepresentable (meantime : Meantime codec token start world)
    (within : start.clock.isRepresentable = true) : world.clock.isRepresentable = true := by
  induction meantime with
  | start => exact within
  | act past spares ih => rwa [World.perform_clock]
  | call past ours apart ih => rwa [Call.clock_after]
  | revoke past apart ih => rwa [clock_on]
  | sweep past ih => exact ih
  | wait past ordered within ih => exact within

/-- The mark of claims is at the key of a text until they expire. -/
def HoldsMark (token : String) (claims : Claims) (world : World) : Prop :=
  Store.IsThereUntil (world.keyValue.get? (markKey token)) (markOf claims) (expiryOf claims)
    world.clock

theorem HoldsMark.of_kept {after : World} (holds : HoldsMark token claims world)
    (kept : KeepsKey (markKey token) world after) (later : world.clock ≤ after.clock) :
    HoldsMark token claims after :=
  Store.IsThereUntil.of_kept holds decide_eq_true_iff kept later

/-- Revoking the same text anew puts the same mark, and revoking any other text puts none here. -/
theorem HoldsMark.revoke (holds : HoldsMark token claims world) {other : String}
    (carries : codec.Carries token claims) (within : world.clock.isRepresentable = true)
    (apart : markKey other = markKey token → Text.trim other = Text.trim token) :
    HoldsMark token claims ((revoke codec other).on world).2 := by
  have later : world.clock ≤ ((Engine.revoke codec other).on world).2.clock := by
    rw [clock_on]
    exact Int.le_refl _
  rcases revoke_cases Prod.mk.eta.symm within with ⟨others, otherwise, _, _, marked⟩ | ⟨same, _⟩
  · by_cases key : markKey other = markKey token
    · obtain rfl := carries.unique (Codec.carries_of_trim_eq (apart key) otherwise)
      refine Or.inl ?_
      rw [marked, ← key, Store.Table.get?_insert_self]
    · refine holds.of_kept (Or.inl ?_) later
      rw [marked, Store.Table.get?_insert_of_ne _ _ fun same => key same.symm]
  · exact holds.of_kept (keepsKey_of_eq same) later

theorem HoldsMark.call (holds : HoldsMark token claims world) {service : Service} {call : Call}
    (carries : service.codec.Carries token claims) (within : world.clock.isRepresentable = true)
    (apart : ∀ text, (call.deed service world).revoked service = some text →
      markKey text = markKey token → text = Text.trim token) :
    HoldsMark token claims (call.after service world) := by
  have later : world.clock ≤ (call.after service world).clock := by
    rw [Call.clock_after]
    exact Int.le_refl _
  cases call.markEffect within with
  | @marks text others revoked otherwise marked kept =>
    by_cases key : markKey text = markKey token
    · obtain rfl := apart text revoked key
      obtain rfl := carries.unique (Codec.carries_trim.1 otherwise)
      refine Or.inl ?_
      rw [← key, marked]
    · exact holds.of_kept (kept token fun same => key same.symm) later
  | keeps _ kept => exact holds.of_kept (kept token) later

/-- Whatever happens meanwhile, the mark stays until the claims expire. -/
theorem Meantime.holdsMark (meantime : Meantime codec token start world)
    (carries : codec.Carries token claims) (within : start.clock.isRepresentable = true)
    (holds : HoldsMark token claims start) : HoldsMark token claims world := by
  induction meantime with
  | start => exact holds
  | @act world past action spares ih =>
    refine ih.of_kept (keepsKey_perform spares world) ?_
    rw [World.perform_clock]
    exact Int.le_refl _
  | call past ours apart ih =>
    subst ours
    exact ih.call carries (past.isRepresentable within) apart
  | revoke past apart ih => exact ih.revoke carries (past.isRepresentable within) apart
  | sweep past ih => exact ih.of_kept (Or.inr Store.KeyValue.get?_purge) (Int.le_refl _)
  | wait past ordered within ih => exact ih.of_kept (Or.inl rfl) ordered

/-- A text is told to be revoked as long as the mark of its claims is there. -/
theorem on_isRevoked_of_holdsMark (holds : HoldsMark token claims world) :
    ((isRevoked token).on world).1 =
      .ok (.ok (decide (world.clock.seconds < claims.expiresAt))) := by
  have asked : (isRevoked token).on world = _ := on_isMarked (markKey token) world
  have live : world.clock.seconds < claims.expiresAt ↔ world.clock < expiryOf claims :=
    Instant.seconds_lt_iff
  rw [asked, Store.KeyValue.liveAt]
  rcases holds with there | ⟨gone, lapsed⟩
  · by_cases before : world.clock < expiryOf claims
    · have alive : (markOf claims).isLive world.clock = true := decide_eq_true before
      rw [there, Option.filter_some, if_pos alive, decide_eq_true (live.2 before)]
      rfl
    · have dead : ¬ (markOf claims).isLive world.clock = true := fun alive =>
        before (of_decide_eq_true alive)
      rw [there, Option.filter_some, if_neg dead, decide_eq_false fun early => before (live.1 early)]
      rfl
  · have after : ¬ world.clock.seconds < claims.expiresAt := fun early =>
      Instant.not_lt.2 lapsed (live.1 early)
    rw [gone, decide_eq_false after]
    rfl

end Meantime

/-! ## Revoking what was issued -/

/-- From an instant on, a text is accepted until a second, and whenever it is accepted it can be
revoked. -/
structure Revocable (codec : Codec) (issuedAt : Instant) (expiresAt : Int) (token : String) :
    Prop where
  accepted : ∀ now, issuedAt ≤ now →
    ((∃ claims, codec.verify now token = .ok claims) ↔ now.seconds < expiresAt)
  /-- Some time remains of what is accepted. -/
  remains : ∀ now claims, issuedAt ≤ now → codec.verify now token = .ok claims →
    ∃ left, codec.remaining now token = .ok left ∧ 0 < left
  /-- Revoking what is accepted succeeds in every world, and the text is told to be revoked
  afterwards, until it expires. -/
  revoked : ∀ (world : World) claims, issuedAt ≤ world.clock →
    codec.verify world.clock token = .ok claims →
    ∃ after, (revoke codec token).on world = (.ok (.ok ()), after) ∧
      ∀ later, Meantime codec token after later →
        ((isRevoked token).on later).1 = .ok (.ok (decide (later.clock.seconds < expiresAt)))

section Issued

variable {codec : Codec} {issuedAt : Instant} {identity : UserId} {kind : TokenKind}
  {lifetime : Duration} {tokenId token : String} {claims : Claims}

/-- What carries claims that expire within the calendar can be revoked from any instant of the
calendar on. -/
theorem revocable_of_carries (carries : codec.Carries token claims)
    (within : issuedAt.isRepresentable = true) (dated : (expiryOf claims).isRepresentable = true) :
    Revocable codec issuedAt claims.expiresAt token where
  accepted := by
    intro now _
    constructor
    · rintro ⟨found, accepted⟩
      obtain ⟨otherwise, live⟩ := Codec.verify_eq_ok_iff.1 accepted
      rwa [carries.unique otherwise]
    · intro live
      exact ⟨claims, Codec.verify_eq_ok_iff.2 ⟨carries, live⟩⟩
  remains := by
    intro now found _ accepted
    obtain ⟨otherwise, live⟩ := Codec.verify_eq_ok_iff.1 accepted
    obtain rfl := carries.unique otherwise
    exact ⟨_, remaining_of_carries carries dated, remaining_pos_iff.2 live⟩
  revoked := by
    intro world found ordered accepted
    obtain ⟨otherwise, live⟩ := Codec.verify_eq_ok_iff.1 accepted
    obtain rfl := carries.unique otherwise
    -- An instant at which the text is accepted lies between two dates of the calendar.
    have clock : world.clock.isRepresentable = true := by
      have first := Instant.seconds_le_seconds ordered
      have last := (Instant.isRepresentable_ofSeconds_iff.1 dated).2
      rw [Instant.isRepresentable_iff] at within ⊢
      omega
    refine ⟨_, on_revoke carries clock dated (Instant.seconds_lt_iff.1 live), ?_⟩
    intro later meantime
    exact on_isRevoked_of_holdsMark
      (meantime.holdsMark carries clock (Or.inl (Store.Table.get?_insert_self _ _ _)))

/-- **What is issued can be revoked.**  A credential of either kind that is issued at an instant from
1970 on and expires within the calendar is accepted until it expires; at every instant at which it is
accepted some time remains of it, and revoking it succeeds in every world and is remembered until it
expires.  Lifetimes that are no signed numbers of sixty-four bits are turned down. -/
theorem issue_revocable (codec : Codec) (identity : UserId) (kind : TokenKind)
    (lifetime : Duration) (tokenId : String) (natural : 0 ≤ issuedAt.nanoseconds)
    (within : issuedAt.isRepresentable = true) :
    (issuedAt.seconds + lifetime.seconds ≤ Instant.lastSecond →
      ∃ token, codec.issue issuedAt identity kind lifetime tokenId = .ok token ∧
        Revocable codec issuedAt (issuedAt.seconds + lifetime.seconds) token) ∧
    (Codec.lastSecond < lifetime.seconds →
      codec.issue issuedAt identity kind lifetime tokenId =
        .error (.internal (kind.name ++ " lifetime out of range"))) := by
  refine ⟨?_, fun long => if_pos long⟩
  intro dated
  have begins := Instant.seconds_nonneg natural
  have short := Int.le_trans dated (by decide : Instant.lastSecond ≤ Codec.lastSecond)
  obtain ⟨carries, expiry⟩ : codec.Carries
      (codec.encode (Codec.issuedClaims issuedAt identity kind lifetime tokenId)) _ ∧ _ :=
    codec.carries_issued begins within dated
  refine ⟨_, (Codec.issue_eq_ok_iff codec).2 ⟨by omega, rfl⟩, ?_⟩
  rw [← expiry] at dated ⊢
  refine revocable_of_carries carries within (Instant.isRepresentable_ofSeconds_iff.2 ⟨?_, dated⟩)
  rw [expiry, Instant.firstSecond]
  omega

/-- An access credential for half an hour, issued at the start of a run. -/
theorem issue_revocable_halfHour :
    (0 ≤ Sample.world.clock.nanoseconds ∧ Sample.world.clock.isRepresentable = true) ∧
    ∃ token, Sample.service.codec.issue Sample.world.clock Sample.identity .access
        (.ofSeconds 1800) "0" = .ok token ∧
      Revocable Sample.service.codec Sample.world.clock 1700001800 token := by
  have revocable := issue_revocable Sample.service.codec Sample.identity .access (.ofSeconds 1800) "0"
    (by decide : 0 ≤ Sample.world.clock.nanoseconds) (by decide)
  exact ⟨⟨by decide, by decide⟩, revocable.1 (by decide)⟩

/-! ## Beyond the end of the calendar -/

/-- Of what expires at no date of the calendar, no time that remains can be told. -/
theorem remaining_of_undated {now : Instant} (carries : codec.Carries token claims)
    (undated : (expiryOf claims).isRepresentable = false) :
    codec.remaining now token = malformed "exp out of range" := by
  obtain ⟨parts, frame, head, body, signed⟩ := carries
  rw [expiryOf] at undated
  simp only [Codec.remaining_eq, acceptableParts_eq_ok_iff.2 ⟨frame, head⟩,
    claimsOfPart_eq_ok_iff.2 body, (codec.isSigned_iff parts).2 signed, undated, if_true,
    Bool.false_eq_true, if_false]

/-- What is issued for a lifetime that leads beyond the calendar is accepted at every instant of the
calendar, and cannot be revoked at any. -/
theorem issued_undated (codec : Codec) (identity : UserId) (kind : TokenKind) (lifetime : Duration)
    (tokenId : String) (within : issuedAt.isRepresentable = true)
    (issuable : (lifetime.seconds : Int) ≤ Codec.lastSecond)
    (beyond : Instant.lastSecond < issuedAt.seconds + lifetime.seconds) :
    ∃ token, codec.issue issuedAt identity kind lifetime tokenId = .ok token ∧
      ∀ world : World, world.clock.isRepresentable = true →
        (∃ claims, codec.verify world.clock token = .ok claims) ∧
        codec.remaining world.clock token = malformed "exp out of range" ∧
        (revoke codec token).on world =
          (.ok (.error (.rejected (.malformedCredential "exp out of range"))), world) := by
  have late : Instant.lastSecond <
      (Codec.issuedClaims issuedAt identity kind lifetime tokenId).expiresAt :=
    Int.lt_min.2 ⟨beyond, by decide⟩
  have carries := (Codec.carries_encode codec (Codec.inRange_issuedClaims within)).2
    (⟨rfl, Int.le_of_lt (Int.lt_trans (by decide) late)⟩ :
      Codec.issuedClaims issuedAt identity kind lifetime tokenId = _ ∧ _)
  refine ⟨_, (Codec.issue_eq_ok_iff codec).2 ⟨issuable, rfl⟩, ?_⟩
  intro world clock
  have latest := (Instant.isRepresentable_iff.1 clock).2
  have undated : (expiryOf (Codec.issuedClaims issuedAt identity kind lifetime
      tokenId)).isRepresentable = false := by
    rw [Bool.eq_false_iff, ne_eq, expiryOf, Instant.isRepresentable_ofSeconds_iff]
    exact fun both => Int.not_le.2 late both.2
  exact ⟨⟨_, Codec.verify_eq_ok_iff.2 ⟨carries, Int.lt_of_le_of_lt latest late⟩⟩,
    remaining_of_undated carries undated,
    on_revoke_of_error (remaining_of_undated carries undated)⟩

/-- An access credential for ten million million seconds is issued and accepted, but it cannot be
revoked. -/
theorem not_revocable_pastCalendar :
    ∃ token, Sample.service.codec.issue Sample.world.clock Sample.identity .access
        (.ofSeconds 10000000000000) "0" = .ok token ∧
      (∃ claims, Sample.service.codec.verify Sample.world.clock token = .ok claims) ∧
      Sample.service.codec.remaining Sample.world.clock token = malformed "exp out of range" ∧
      (revoke Sample.service.codec token).on Sample.world =
        (.ok (.error (.rejected (.malformedCredential "exp out of range"))), Sample.world) := by
  obtain ⟨token, issued, always⟩ := issued_undated Sample.service.codec Sample.identity .access
    (.ofSeconds 10000000000000) "0" Sample.isFresh_world.clock (by decide) (by decide)
  exact ⟨token, issued, always Sample.world Sample.isFresh_world.clock⟩

end Issued

end SignOn.Engine
