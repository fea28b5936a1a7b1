import SignOn.Text.Percent
import SignOn.Text.Split

/-!
# Form encoding

The body of a token request and the query of a callback are lists of named values in the form
encoding: pairs are joined by ampersands, a name and its value by an equals sign, a space is a plus
sign, letters, digits and four punctuation marks stand for themselves, and every other byte is
escaped.  Since the separators are always escaped inside names and values, reading what was written
gives the pairs back, whatever they hold.
-/

namespace SignOn.Text.Form

set_option autoImplicit false

/-! ## Writing -/

/-- Whether a byte stands for itself: letters, digits, and the marks `*`, `-`, `.` and `_`. -/
def isPlain (byte : UInt8) : Bool :=
  (0x30 ≤ byte && byte ≤ 0x39) || (0x41 ≤ byte && byte ≤ 0x5A) || (0x61 ≤ byte && byte ≤ 0x7A) ||
    byte = 0x2A || byte = 0x2D || byte = 0x2E || byte = 0x5F

/-- The characters that write one byte. -/
def encodeByte (byte : UInt8) : List Char :=
  if byte = 0x20 then ['+']
  else if isPlain byte then [Char.ofNat byte.toNat]
  else Percent.escape byte

/-- A name or a value in the form encoding. -/
def encodeText (text : String) : List Char :=
  (utf8 text).flatMap encodeByte

/-- A name with its value. -/
def encodePair (pair : String × String) : List Char :=
  encodeText pair.1 ++ '=' :: encodeText pair.2

/-- A list of named values, in its order. -/
def encode (pairs : List (String × String)) : List Char :=
  joinWith '&' (pairs.map encodePair)

/-! ## Reading -/

/-- The text of an encoded name or value. -/
def decodeText (characters : List Char) : String :=
  ofUtf8Lossy (Percent.decode (characters.map fun c => if c = '+' then ' ' else c))

/-- An encoded name with its value; a piece without an equals sign is a name with an empty value. -/
def decodePair (characters : List Char) : String × String :=
  match splitFirst? '=' characters with
  | some (name, value) => (decodeText name, decodeText value)
  | none => (decodeText characters, "")

/-- The named values of an encoded text.  Empty pieces between ampersands are skipped. -/
def decode (characters : List Char) : List (String × String) :=
  ((splitOn '&' characters).filter fun piece => !piece.isEmpty).map decodePair

end SignOn.Text.Form
