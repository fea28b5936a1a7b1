import SignOn.Json.Basic
import SignOn.Text.Hex

/-!
# Writing JSON texts

Values are written without blanks, members in their order.  In strings the quote, the backslash and
the control characters below the space are escaped, the usual ones by a letter and the others by
their number; everything else stands for itself.
-/

namespace SignOn.Json

set_option autoImplicit false

/-! ## Strings and numbers -/

/-- A character as it stands in a string literal. -/
def writeCharacter (character : Char) : List Char :=
  if character = '"' then ['\\', '"']
  else if character = '\\' then ['\\', '\\']
  else if character = '\x08' then ['\\', 'b']
  else if character = '\x0c' then ['\\', 'f']
  else if character = '\n' then ['\\', 'n']
  else if character = '\r' then ['\\', 'r']
  else if character = '\t' then ['\\', 't']
  else if character.toNat < 0x20 then
    ['\\', 'u', '0', '0', Text.hexDigit (character.toNat / 16), Text.hexDigit (character.toNat % 16)]
  else [character]

/-- A text as a string literal. -/
def writeString (text : String) : List Char :=
  '"' :: text.toList.flatMap writeCharacter ++ ['"']

/-- A number literal; a real is written as its fewest digits and a power of ten. -/
def writeNumber : Number → List Char
  | .integer value => Text.signedDigits value
  | .real negative magnitude =>
      let (digits, exponent) := magnitude.shortest
      (if negative then ['-'] else []) ++ Text.digits digits ++ 'e' :: Text.signedDigits exponent
  | .tooLarge _ => "null".toList

/-! ## Values -/

mutual

/-- The characters that write a value.  A value that could not be read has no text of its own and is
written as null. -/
def write : Json → List Char
  | .null => "null".toList
  | .boolean true => "true".toList
  | .boolean false => "false".toList
  | .number value => writeNumber value
  | .string text => writeString text
  | .array items => '[' :: writeItems items ++ [']']
  | .object members => '\x7b' :: writeMembers members ++ ['\x7d']
  | .unreadable _ => "null".toList

/-- The items of an array, with commas between them. -/
def writeItems : List Json → List Char
  | [] => []
  | [item] => write item
  | item :: next :: rest => write item ++ ',' :: writeItems (next :: rest)

/-- The members of an object, with commas between them. -/
def writeMembers : List (String × Json) → List Char
  | [] => []
  | [(name, value)] => writeString name ++ ':' :: write value
  | (name, value) :: next :: rest =>
      writeString name ++ ':' :: write value ++ ',' :: writeMembers (next :: rest)

end

/-- The text that writes a value. -/
def text (json : Json) : String :=
  String.ofList json.write

end SignOn.Json
