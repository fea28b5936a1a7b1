import Mathlib.Data.List.TakeWhile
import Mathlib.Tactic.SplitIfs
import SignOn.Json.Writer
import SignOn.Proofs.Text.Digits

/-!
# Integer literals

The decimal digits of an integer of sixty-four bits, with a minus sign in front of a negative one,
are the literal of that integer (`Number.ofLiteral?_signedDigits`).
-/

namespace SignOn

set_option autoImplicit false

/-! ## Literals -/

namespace Json.Number

/-- Digits whose value fits are taken whole. -/
theorem takeWhole_eq {value : Nat} {digits : List Char}
    (fits : digits.foldl (fun value digit => value * 10 + (digit.toNat - 48)) value ≤
      greatestInteger) :
    takeWhole value digits =
      (digits.foldl (fun value digit => value * 10 + (digit.toNat - 48)) value, 0) := by
  induction digits generalizing value with
  | nil => rfl
  | cons digit rest ih =>
    rw [List.foldl_cons] at fits ⊢
    have grows (digits : List Char) (value : Nat) :
        value ≤ digits.foldl (fun value digit => value * 10 + (digit.toNat - 48)) value := by
      induction digits generalizing value with
      | nil => exact Nat.le_refl value
      | cons digit rest ih =>
        rw [List.foldl_cons]
        exact Nat.le_trans (by omega) (ih _)
    have short := Nat.le_trans (grows rest _) fits
    simp only [takeWhole, short, if_true, ih fits]

theorem takeWhole_digits {value : Nat} (fits : value ≤ greatestInteger) :
    takeWhole 0 (Text.digits value) = (value, 0) := by
  have whole := Text.valueOfDigits_digits value
  unfold Text.valueOfDigits at whole
  rw [takeWhole_eq (by rw [whole]; exact fits), whole]

theorem takeWhile_digits (value : Nat) :
    (Text.digits value).takeWhile Char.isDigit = Text.digits value :=
  List.takeWhile_eq_self_iff.2 fun digit member => Text.digits_isDigit value digit member

theorem dropWhile_digits (value : Nat) : (Text.digits value).dropWhile Char.isDigit = [] :=
  List.dropWhile_eq_nil_iff.2 fun digit member => Text.digits_isDigit value digit member

/-- Digits are no minus sign. -/
theorem digits_ne_minus (value : Nat) (rest : List Char) : Text.digits value ≠ '-' :: rest := by
  intro same
  have digit := Text.digits_isDigit value '-' (by rw [same]; simp)
  exact absurd digit (by decide)

/-- The integers of at most sixty-four bits, with a sign or without. -/
def Fits (value : Int) : Prop :=
  leastInteger ≤ value ∧ value ≤ greatestInteger

theorem ofLiteral?_signedDigits {value : Int} (fits : Fits value) :
    ofLiteral? (Text.signedDigits value) = some (.integer value) := by
  obtain ⟨least, greatest⟩ := fits
  unfold leastInteger at least
  have size : value.natAbs ≤ greatestInteger := by
    unfold greatestInteger at greatest ⊢
    omega
  have leading := Text.not_leadingZero_digits value.natAbs
  have filled : (Text.digits value.natAbs).isEmpty = false := by
    simpa using Text.digits_ne_nil value.natAbs
  have noFraction : ofLiteral?.fraction [] = some ([], []) := rfl
  have noExponent : ofLiteral?.exponent [] = some (none, []) := rfl
  by_cases negative : value < 0
  · have signed : -(value.natAbs : Int) = value := by omega
    have nonzero : value.natAbs ≠ 0 := by omega
    rw [Text.signedDigits, if_pos negative]
    generalize value.natAbs = whole at *
    have sign : takeMinus ('-' :: Text.digits whole) = (true, Text.digits whole) := rfl
    simp [ofLiteral?, sign, takeWhile_digits, dropWhile_digits, filled, leading, noFraction,
      noExponent, takeWhole_digits size, signed, nonzero, leastInteger, least]
  · have unsigned : (value.natAbs : Int) = value := by omega
    rw [Text.signedDigits, if_neg negative]
    generalize value.natAbs = whole at *
    have noSign : takeMinus (Text.digits whole) = (false, Text.digits whole) := by
      unfold takeMinus
      split
      · next same => exact absurd same (digits_ne_minus _ _)
      · rfl
    simp [ofLiteral?, noSign, takeWhile_digits, dropWhile_digits, filled, leading, noFraction,
      noExponent, takeWhole_digits size, unsigned, leastInteger, least]

end Json.Number

end SignOn
