import SignOn.Text.Hex
import SignOn.Text.Utf8

/-!
# Percent escapes

A byte that must not stand for itself is written as a percent sign and two uppercase hexadecimal
digits.  Which bytes are escaped is the writer's choice; reading undoes every escape that is well
formed and leaves a percent sign that begins none as it is.
-/

namespace SignOn.Text.Percent

set_option autoImplicit false

/-- The escape of a byte. -/
def escape (byte : UInt8) : List Char :=
  ['%', upperHexDigit (byte.toNat / 16), upperHexDigit (byte.toNat % 16)]

/-- The characters that write some bytes, where a test tells which bytes are escaped.  A byte that
is not escaped stands for the ASCII character of its value. -/
def encodeBytes (escaped : UInt8 → Bool) (bytes : List UInt8) : List Char :=
  bytes.flatMap fun byte => if escaped byte then escape byte else [Char.ofNat byte.toNat]

/-- A text with the escaped bytes of its encoding written as escapes. -/
def encode (escaped : UInt8 → Bool) (text : String) : List Char :=
  encodeBytes escaped (utf8 text)

/-- The byte that three bytes stand for when they form an escape. -/
def escaped? (sign high low : UInt8) : Option UInt8 :=
  if sign = 0x25 then
    match hexValue? (Char.ofNat high.toNat), hexValue? (Char.ofNat low.toNat) with
    | some h, some l => some (UInt8.ofNat (16 * h + l))
    | _, _ => none
  else none

/-- The bytes that a sequence of bytes stands for once its escapes are undone. -/
def decodeBytes : List UInt8 → List UInt8
  | first :: second :: third :: rest =>
      match escaped? first second third with
      | some byte => byte :: decodeBytes rest
      | none => first :: decodeBytes (second :: third :: rest)
  | first :: rest => first :: decodeBytes rest
  | [] => []

/-- The bytes that a text stands for once its escapes are undone. -/
def decode (characters : List Char) : List UInt8 :=
  decodeBytes (utf8 (String.ofList characters))

end SignOn.Text.Percent
