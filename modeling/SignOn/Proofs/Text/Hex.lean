import Mathlib.Tactic.SplitIfs
import SignOn.Text.Hex

/-!
# Hexadecimal texts

Two sequences of bytes with the same hexadecimal text are the same (`hexOfBytes_injective`).  A number
is read back from its digits in base sixteen (`foldl_hexOfNat`).
-/

namespace SignOn.Text

set_option autoImplicit false

theorem hexValue?_hexDigit : ∀ value < 16, hexValue? (hexDigit value) = some value := by decide

theorem hexDigit_injective {first second : Nat} (small : first < 16) (alsoSmall : second < 16)
    (same : hexDigit first = hexDigit second) : first = second := by
  have read := hexValue?_hexDigit first small
  rw [same, hexValue?_hexDigit second alsoSmall] at read
  exact (Option.some.inj read).symm

theorem hexOfBytes_injective {first second : List UInt8}
    (same : hexOfBytes first = hexOfBytes second) : first = second := by
  induction first generalizing second with
  | nil =>
    cases second with
    | nil => rfl
    | cons byte rest => simp [hexOfBytes] at same
  | cons byte rest ih =>
    cases second with
    | nil => simp [hexOfBytes] at same
    | cons other others =>
      simp only [hexOfBytes, List.flatMap_cons, List.cons_append, List.nil_append,
        List.cons.injEq] at same
      obtain ⟨high, low, later⟩ := same
      have bound (value : UInt8) : value.toNat / 16 < 16 := by
        have small := value.toNat_lt
        omega
      have sameHigh := hexDigit_injective (bound byte) (bound other) high
      have sameLow := hexDigit_injective (Nat.mod_lt _ (by decide)) (Nat.mod_lt _ (by decide)) low
      rw [ih later, UInt8.toNat_inj.1 (by omega : byte.toNat = other.toNat)]

/-! ## Numbers in base sixteen -/

theorem hexValue?_digitChar : ∀ value < 16, hexValue? value.digitChar = some value := by decide

theorem hexOfNat_ne_nil (value : Nat) : hexOfNat value ≠ [] :=
  Nat.toDigits_ne_nil

theorem isSome_hexValue?_of_mem_hexOfNat {value : Nat} {digit : Char}
    (member : digit ∈ hexOfNat value) : (hexValue? digit).isSome = true := by
  induction value using Nat.strongRecOn with
  | ind value ih =>
    unfold hexOfNat at member ih
    rw [Nat.toDigits_eq_if (by decide)] at member
    split_ifs at member with small
    · obtain rfl := List.mem_singleton.1 member
      rw [hexValue?_digitChar value small, Option.isSome_some]
    · obtain front | last := List.mem_append.1 member
      · exact ih (value / 16) (by omega) front
      · obtain rfl := List.mem_singleton.1 last
        rw [hexValue?_digitChar _ (Nat.mod_lt value (by decide)), Option.isSome_some]

theorem foldl_hexOfNat (value : Nat) :
    (hexOfNat value).foldl (fun value digit => value * 16 + (hexValue? digit).getD 0) 0 = value := by
  induction value using Nat.strongRecOn with
  | ind value ih =>
    unfold hexOfNat at ih ⊢
    rw [Nat.toDigits_eq_if (by decide)]
    split_ifs with small
    · simp [hexValue?_digitChar value small]
    · rw [List.foldl_append, ih (value / 16) (by omega), List.foldl_cons, List.foldl_nil,
        hexValue?_digitChar _ (Nat.mod_lt value (by decide)), Option.getD_some]
      omega

end SignOn.Text
