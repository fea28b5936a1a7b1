import SignOn.Proofs.Engine.Effects
import SignOn.Proofs.Engine.Marks

/-!
# How long a credential is good

Three operations look at the expiry of a credential.  Verifying compares whole seconds, before it
looks at the signature.  The time that remains is a difference of instants, and is told only of what
is correctly signed.  Revoking goes by the time that remains.  All three agree
(`validity_agrees`): a text is accepted exactly while some time remains, to the last
nanosecond, and revoking what is correctly signed does nothing exactly when it has expired.
-/

namespace SignOn.Engine

set_option autoImplicit false

open Operation Settings

/-! ## The time that remains -/

section Remaining

variable {codec : Codec} {now : Instant} {raw : String} {claims : Claims}

/-- Time remains until the expiry exactly while the last whole second is before it. -/
theorem remaining_pos_iff :
    0 < (expiryOf claims).nanoseconds - now.nanoseconds ↔ now.seconds < claims.expiresAt := by
  rw [Int.sub_pos, Instant.seconds_lt_iff]
  rfl

/-- What carries claims is either accepted or expired. -/
theorem verify_eq_expired_iff (carries : codec.Carries raw claims) :
    codec.verify now raw = .error .expiredCredential ↔ claims.expiresAt ≤ now.seconds := by
  constructor
  · intro expired
    by_contra live
    have accepted := Codec.verify_eq_ok_iff.2 ⟨carries, Int.not_le.1 live⟩
    rw [expired] at accepted
    cases accepted
  · exact Codec.verify_of_carries carries

end Remaining

/-! ## Revoking by the time that remains -/

/-- The mark that a call puts is there afterwards. -/
theorem get?_mark {key text : String} {lifetime : Duration} {world after : World}
    (marked : (call (.mark key text lifetime)).on world = (.ok (.ok ()), after)) :
    ∃ entry, after.keyValue.get? key = some entry := by
  cases fits : Store.expiry world.clock lifetime with
  | ok expiresAt =>
    have reply : world.performCall (.mark key text lifetime) =
        (.ok (.answered ()),
          { world with keyValue := world.keyValue.insert key ⟨.text text, expiresAt⟩ }) := by
      rw [World.performCall, Store.KeyValue.write, fits]
      rfl
    rw [on_call_answered reply] at marked
    obtain ⟨_, rfl⟩ := Prod.mk.inj marked
    exact ⟨_, Store.Table.get?_insert_self _ _ _⟩
  | error fault =>
    have reply : world.performCall (.mark key text lifetime) =
        (World.replyOfFault fault, world) := by
      rw [World.performCall, Store.KeyValue.write, fits]
      rfl
    have failed := (Service.on_call_of_fault reply).1 ()
    rw [marked] at failed
    exact absurd rfl failed

/-- Revoking a text at an instant does nothing, whatever the stores hold. -/
def RevokesNothing (codec : Codec) (now : Instant) (raw : String) : Prop :=
  ∀ world : World, world.clock = now → (revoke codec raw).on world = (.ok (.ok ()), world)

/-- Some time remains at an instant exactly when revoking does something. -/
theorem revokesNothing_iff {codec : Codec} {now : Instant} {raw : String} {left : Int}
    (remains : codec.remaining now raw = .ok left) : RevokesNothing codec now raw ↔ left ≤ 0 := by
  constructor
  · intro nothing
    by_contra live
    have ran := nothing { Sample.world with clock := now } rfl
    rw [on_revoke_of_remaining remains, if_neg live] at ran
    obtain ⟨entry, found⟩ := get?_mark ran
    cases found
  · rintro spent world rfl
    rw [on_revoke_of_remaining remains, if_pos spent]

/-! ## Agreement -/

/-- What verifying a text, the time that remains of it and revoking it say at one instant. -/
structure ValidityAgrees (codec : Codec) (now : Instant) (raw : String) : Prop where
  /-- The text is accepted exactly if some time remains. -/
  live : (∃ claims, codec.verify now raw = .ok claims) ↔
    ∃ left, codec.remaining now raw = .ok left ∧ 0 < left
  /-- The time that remains of what is accepted leads to the instant of its expiry. -/
  exact : ∀ claims, codec.verify now raw = .ok claims →
    codec.remaining now raw =
      .ok ((Instant.ofSeconds claims.expiresAt).nanoseconds - now.nanoseconds)
  /-- If no time remains the text has expired. -/
  spent : ∀ left, codec.remaining now raw = .ok left → left ≤ 0 →
    codec.verify now raw = .error .expiredCredential
  /-- Revoking what is correctly signed does nothing exactly if it has expired. -/
  revoking : ∀ claims, codec.Carries raw claims →
    (RevokesNothing codec now raw ↔ codec.verify now raw = .error .expiredCredential)

/-- **Verifying, the time that remains and revoking agree.**  At every instant they say the same of
every text, if the expiry that a correctly signed text carries is a date of the calendar. -/
theorem validity_agrees (codec : Codec) (now : Instant) (raw : String)
    (dated : ∀ claims, codec.Carries raw claims →
      (Instant.ofSeconds claims.expiresAt).isRepresentable = true) :
    ValidityAgrees codec now raw where
  live := by
    constructor
    · rintro ⟨claims, accepted⟩
      obtain ⟨carries, live⟩ := Codec.verify_eq_ok_iff.1 accepted
      exact ⟨_, remaining_of_carries carries (dated claims carries), remaining_pos_iff.2 live⟩
    · rintro ⟨left, remains, positive⟩
      obtain ⟨claims, carries, _, rfl⟩ := Codec.remaining_eq_ok_iff.1 remains
      exact ⟨claims, Codec.verify_eq_ok_iff.2 ⟨carries, remaining_pos_iff.1 positive⟩⟩
  exact := by
    intro claims accepted
    have carries := (Codec.verify_eq_ok_iff.1 accepted).1
    exact remaining_of_carries carries (dated claims carries)
  spent := by
    intro left remains spent
    obtain ⟨claims, carries, _, rfl⟩ := Codec.remaining_eq_ok_iff.1 remains
    rw [verify_eq_expired_iff carries, ← Int.not_lt, ← remaining_pos_iff]
    exact Int.not_lt.2 spent
  revoking := by
    intro claims carries
    rw [revokesNothing_iff (remaining_of_carries carries (dated claims carries)),
      verify_eq_expired_iff carries, ← Int.not_lt, ← Int.not_lt, ← remaining_pos_iff]

/-- A nanosecond is left of the access credential of a first login right before it expires. -/
theorem validity_agrees_pair :
    ValidityAgrees Sample.service.codec ⟨1700001799999999999⟩ Sample.pair.accessToken ∧
      Sample.service.codec.remaining ⟨1700001799999999999⟩ Sample.pair.accessToken = .ok 1 := by
  have inRange : (Codec.issuedClaims Sample.world.clock Sample.identity .access
      Sample.service.codec.accessLifetime (Sample.world.tokenIds 0)).InRange :=
    Codec.inRange_issuedClaims (by decide)
  have carries := (Codec.carries_encode Sample.service.codec inRange).2 ⟨rfl, by decide⟩
  have moment : (expiryOf (Codec.issuedClaims Sample.world.clock Sample.identity .access
      Sample.service.codec.accessLifetime (Sample.world.tokenIds 0))).nanoseconds -
        1700001799999999999 = 1 := by decide
  have left : Sample.service.codec.remaining ⟨1700001799999999999⟩ Sample.pair.accessToken = _ :=
    remaining_of_carries carries (by decide)
  rw [moment] at left
  refine ⟨validity_agrees Sample.service.codec _ Sample.pair.accessToken ?_, left⟩
  intro claims found
  obtain rfl := found.unique carries
  decide

end SignOn.Engine
