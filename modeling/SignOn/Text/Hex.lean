/-!
# Hexadecimal digits

Revocation marks and token identifiers are written in lowercase hexadecimal, percent escapes in
uppercase; all of them are read in either case.
-/

namespace SignOn.Text

set_option autoImplicit false

/-- The lowercase digit of a value below sixteen. -/
def hexDigit (value : Nat) : Char :=
  if value < 10 then Char.ofNat (48 + value) else Char.ofNat (87 + value)

/-- The uppercase digit of a value below sixteen. -/
def upperHexDigit (value : Nat) : Char :=
  if value < 10 then Char.ofNat (48 + value) else Char.ofNat (55 + value)

/-- The value of a hexadecimal digit of either case. -/
def hexValue? (digit : Char) : Option Nat :=
  if '0' ≤ digit ∧ digit ≤ '9' then some (digit.toNat - 48)
  else if 'a' ≤ digit ∧ digit ≤ 'f' then some (digit.toNat - 87)
  else if 'A' ≤ digit ∧ digit ≤ 'F' then some (digit.toNat - 55)
  else none

/-- The two lowercase digits of every byte. -/
def hexOfBytes (bytes : List UInt8) : List Char :=
  bytes.flatMap fun byte => [hexDigit (byte.toNat / 16), hexDigit (byte.toNat % 16)]

/-- The digits of a number in base sixteen, without leading zeros; zero has one digit. -/
def hexOfNat (value : Nat) : List Char :=
  Nat.toDigits 16 value

end SignOn.Text
