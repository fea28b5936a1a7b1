/-!
# Base64 for addresses

The three parts of a credential are written with the base64 alphabet that is safe in addresses,
and without padding.  Three bytes become four characters; one or two bytes left over become two or
three.  Reading is strict: a character outside the alphabet, a padding character, a single
character left over, and bits left over that are not zero are all refused.  Hence a text is read
only when it is what its bytes are written as.
-/

namespace SignOn.Text.Base64Url

set_option autoImplicit false

/-! ## The alphabet -/

/-- The sixty-four characters in the order of their values. -/
def alphabet : List Char :=
  "ABCDEFGHIJKLMNOPQRSTUVWXYZabcdefghijklmnopqrstuvwxyz0123456789-_".toList

/-- The character of a value below sixty-four. -/
def digit (value : Nat) : Char :=
  if value < 26 then Char.ofNat (65 + value)
  else if value < 52 then Char.ofNat (71 + value)
  else if value < 62 then Char.ofNat (value - 4)
  else if value = 62 then '-'
  else '_'

/-- The value of a character of the alphabet. -/
def value? (character : Char) : Option Nat :=
  if 'A' ≤ character ∧ character ≤ 'Z' then some (character.toNat - 65)
  else if 'a' ≤ character ∧ character ≤ 'z' then some (character.toNat - 71)
  else if '0' ≤ character ∧ character ≤ '9' then some (character.toNat + 4)
  else if character = '-' then some 62
  else if character = '_' then some 63
  else none

/-! ## Writing and reading -/

/-- The characters that write some bytes. -/
def encode : List UInt8 → List Char
  | first :: second :: third :: rest =>
      digit (first.toNat / 4) ::
      digit (first.toNat % 4 * 16 + second.toNat / 16) ::
      digit (second.toNat % 16 * 4 + third.toNat / 64) ::
      digit (third.toNat % 64) :: encode rest
  | [first, second] =>
      [digit (first.toNat / 4), digit (first.toNat % 4 * 16 + second.toNat / 16),
       digit (second.toNat % 16 * 4)]
  | [first] => [digit (first.toNat / 4), digit (first.toNat % 4 * 16)]
  | [] => []

/-- The bytes that some values of six bits spell. -/
def bytesOfValues : List Nat → Option (List UInt8)
  | a :: b :: c :: d :: rest =>
      (bytesOfValues rest).map fun bytes =>
        UInt8.ofNat (a * 4 + b / 16) :: UInt8.ofNat (b % 16 * 16 + c / 4) ::
          UInt8.ofNat (c % 4 * 64 + d) :: bytes
  | [a, b, c] =>
      if c % 4 = 0 then
        some [UInt8.ofNat (a * 4 + b / 16), UInt8.ofNat (b % 16 * 16 + c / 4)]
      else none
  | [a, b] => if b % 16 = 0 then some [UInt8.ofNat (a * 4 + b / 16)] else none
  | [_] => none
  | [] => some []

/-- The values of some characters, if all of them are in the alphabet. -/
def values? : List Char → Option (List Nat)
  | [] => some []
  | character :: rest =>
      match value? character, values? rest with
      | some value, some values => some (value :: values)
      | _, _ => none

/-- The bytes that some characters write. -/
def decode (characters : List Char) : Option (List UInt8) :=
  (values? characters).bind bytesOfValues

end SignOn.Text.Base64Url
