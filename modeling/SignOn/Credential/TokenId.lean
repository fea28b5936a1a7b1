import SignOn.Text.Hex

/-!
# Identifiers of credentials

Every credential has an identifier of its own: thirty-two hexadecimal digits of a universally
unique identifier of version 7.  The first twelve give the milliseconds since 1970 at which it was
drawn, one tells the version, one carries the variant, and the others tell apart what was drawn at
one time.
-/

namespace SignOn.TokenId

set_option autoImplicit false

/-- The last digits of a number in base sixteen, as many as given. -/
def lastDigits : Nat → Nat → List Char
  | 0, _ => []
  | count + 1, value => lastDigits count (value / 16) ++ [Text.hexDigit (value % 16)]

/-- The identifier of a time in milliseconds and a number of seventy-four bits. -/
def text (milliseconds number : Nat) : String :=
  String.ofList
    (lastDigits 12 milliseconds ++ '7' :: lastDigits 3 (number / Nat.pow 2 62) ++
      Text.hexDigit (8 + number / Nat.pow 2 60 % 4) :: lastDigits 15 number)

/-- Whether a text has the form of an identifier: thirty-two lowercase digits, of which the
thirteenth tells version 7. -/
def isWellFormed (text : String) : Bool :=
  text.length = 32 && text.toList.all (fun c => c.isDigit || ('a' ≤ c && c ≤ 'f')) &&
    text.toList[12]? = some '7'

@[simp] theorem length_lastDigits (count value : Nat) : (lastDigits count value).length = count := by
  induction count generalizing value with
  | zero => rfl
  | succ count ih => simp [lastDigits, ih]

theorem length_text (milliseconds number : Nat) : (text milliseconds number).length = 32 := by
  rw [text, String.length_ofList]
  simp

end SignOn.TokenId
