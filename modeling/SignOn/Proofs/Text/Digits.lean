import Mathlib.Algebra.Group.Nat.Defs
import Mathlib.Data.List.TakeWhile
import Mathlib.Tactic.SplitIfs
import SignOn.Text.Blank
import SignOn.Text.Digits

/-!
# Reading digits back

The decimal digits of a number are read back as the number (`valueOfDigits_digits`), and so are its
digits with zeros in front of them (`ofDigits?_paddedDigits`).  A field of digits ends where another
character follows, or with the last digit that fits in (`takeDigits_append`).
-/

namespace SignOn.Text

set_option autoImplicit false

/-! ## Digits -/

theorem toNat_of_isDigit {digit : Char} (isDigit : digit.isDigit = true) :
    48 ≤ digit.toNat ∧ digit.toNat ≤ 57 :=
  Char.isDigit_iff_toNat.1 isDigit

theorem not_isBlank_of_isDigit {digit : Char} (isDigit : digit.isDigit = true) :
    isBlank digit = false := by
  obtain ⟨least, greatest⟩ := toNat_of_isDigit isDigit
  have outside : ∀ range ∈ blankRanges, range.2 < 48 ∨ 57 < range.1 := by decide
  rw [isBlank, List.any_eq_false]
  intro range member
  have away := outside range member
  simp only [Bool.and_eq_true, decide_eq_true_eq]
  omega

theorem digits_isDigit (value : Nat) : ∀ digit ∈ digits value, digit.isDigit = true :=
  fun _ member => Nat.isDigit_of_mem_toDigits (by decide) (by decide) member

theorem digits_ne_nil (value : Nat) : digits value ≠ [] :=
  Nat.toDigits_ne_nil

/-- The digits of a number that is not zero begin with another digit than zero. -/
theorem head?_digits {value : Nat} (positive : 0 < value) : (digits value).head? ≠ some '0' := by
  induction value using Nat.strongRecOn with
  | ind value ih =>
    unfold digits
    rw [Nat.toDigits_eq_if (by decide)]
    split_ifs with small
    · have nonzero : ∀ digit < 10, 0 < digit → [Nat.digitChar digit].head? ≠ some '0' := by decide
      exact nonzero value small positive
    · have front := ih (value / 10) (by omega) (by omega)
      rwa [List.head?_append, Option.or_of_isSome (by simp)]

/-- Digits with one of them a zero in front stand for a number only when there is just the one. -/
theorem not_leadingZero_digits (value : Nat) :
    ¬ ((digits value).length > 1 ∧ (digits value).head? = some '0') := by
  rintro ⟨long, zero⟩
  rcases Nat.eq_zero_or_pos value with rfl | positive
  · exact absurd long (by decide)
  · exact head?_digits positive zero

/-! ## Their values -/

theorem valueOfDigits_eq (characters : List Char) :
    valueOfDigits characters = Nat.ofDigitChars 10 characters 0 := by
  rw [Nat.ofDigitChars_eq_foldl, valueOfDigits]
  simp only [Nat.mul_comm 10]
  rfl

theorem valueOfDigits_digits (value : Nat) : valueOfDigits (digits value) = value := by
  rw [valueOfDigits_eq]
  exact Nat.ofDigitChars_ten_toDigits

/-- A number of so many digits is below the power of ten of their number. -/
theorem valueOfDigits_lt {characters : List Char}
    (areDigits : ∀ digit ∈ characters, digit.isDigit = true) :
    valueOfDigits characters < 10 ^ characters.length := by
  -- The digits that were read before count as a start.
  have bound (start : Nat) :
      Nat.ofDigitChars 10 characters start < 10 ^ characters.length * (start + 1) := by
    induction characters generalizing start with
    | nil => simp
    | cons digit rest ih =>
      obtain ⟨_, greatest⟩ := toNat_of_isDigit (areDigits digit List.mem_cons_self)
      have below : digit.toNat - '0'.toNat ≤ 9 := Nat.sub_le_of_le_add greatest
      rw [Nat.ofDigitChars_cons, List.length_cons, Nat.pow_succ, Nat.mul_assoc]
      refine (ih (fun _ member => areDigits _ (List.mem_cons_of_mem _ member)) _).trans_le ?_
      exact Nat.mul_le_mul_left _ (by omega)
  rw [valueOfDigits_eq]
  simpa using bound 0

theorem ofDigits?_eq_some_iff {characters : List Char} {value : Nat} :
    ofDigits? characters = some value ↔
      characters ≠ [] ∧ (∀ digit ∈ characters, digit.isDigit = true) ∧
        valueOfDigits characters = value := by
  simp [ofDigits?, and_assoc]

/-! ## Padding -/

section Padded

variable (width value : Nat)

theorem paddedDigits_isDigit : ∀ digit ∈ paddedDigits width value, digit.isDigit = true := by
  intro digit member
  obtain zero | kept := List.mem_append.1 member
  · rw [List.eq_of_mem_replicate zero]
    decide
  · exact digits_isDigit value digit kept

theorem paddedDigits_ne_nil : paddedDigits width value ≠ [] :=
  List.append_ne_nil_of_right_ne_nil _ (digits_ne_nil value)

theorem exists_paddedDigits_eq_cons :
    ∃ first others, paddedDigits width value = first :: others ∧ first.isDigit = true := by
  obtain ⟨first, others, digits⟩ := List.exists_cons_of_ne_nil (paddedDigits_ne_nil width value)
  refine ⟨first, others, digits, paddedDigits_isDigit width value first ?_⟩
  rw [digits]
  exact List.mem_cons_self

variable {width value}

/-- A number that fits has as many digits as the width. -/
theorem length_paddedDigits (positive : 0 < width) (fits : value < 10 ^ width) :
    (paddedDigits width value).length = width := by
  have short : (digits value).length ≤ width :=
    (Nat.length_toDigits_le_iff (by decide) positive).2 fits
  rw [paddedDigits, List.length_append, List.length_replicate]
  omega

theorem ofDigits?_paddedDigits : ofDigits? (paddedDigits width value) = some value := by
  refine ofDigits?_eq_some_iff.2 ⟨paddedDigits_ne_nil _ _, paddedDigits_isDigit _ _, ?_⟩
  rw [valueOfDigits_eq, paddedDigits, Nat.ofDigitChars_append, Nat.ofDigitChars_replicate_zero,
    Nat.mul_zero, ← valueOfDigits_eq, valueOfDigits_digits]

end Padded

/-! ## Fields of digits -/

/-- No digit stands in front. -/
def StartsOtherwise : List Char → Prop
  | [] => True
  | first :: _ => first.isDigit = false

section Fields

variable {most : Nat} {found rest : List Char}

theorem StartsOtherwise.take (otherwise : StartsOtherwise rest) (count : Nat) :
    StartsOtherwise (rest.take count) := by
  cases rest with
  | nil => rwa [List.take_nil]
  | cons first rest =>
    cases count with
    | zero => trivial
    | succ count => exact otherwise

theorem StartsOtherwise.takeWhile_isDigit (otherwise : StartsOtherwise rest) :
    rest.takeWhile Char.isDigit = [] := by
  cases rest with
  | nil => rfl
  | cons first rest => exact List.takeWhile_cons_of_neg (Bool.not_eq_true _ ▸ otherwise)

theorem StartsOtherwise.dropWhile_isDigit (otherwise : StartsOtherwise rest) :
    rest.dropWhile Char.isDigit = rest := by
  cases rest with
  | nil => rfl
  | cons first rest => exact List.dropWhile_cons_of_neg (Bool.not_eq_true _ ▸ otherwise)

theorem takeDigits_append (areDigits : ∀ digit ∈ found, digit.isDigit = true)
    (fits : found.length ≤ most) (otherwise : StartsOtherwise rest) :
    takeDigits most (found ++ rest) = (found, rest) := by
  have kept : ((found ++ rest).take most).takeWhile Char.isDigit = found := by
    rw [List.take_append, List.take_of_length_le fits, List.takeWhile_append_of_pos areDigits,
      (otherwise.take _).takeWhile_isDigit, List.append_nil]
  rw [takeDigits, kept, List.drop_left]

theorem length_takeDigits_le (characters : List Char) :
    (takeDigits most characters).1.length ≤ most :=
  (List.takeWhile_prefix _).length_le.trans (List.length_take_le _ _)

end Fields

end SignOn.Text
