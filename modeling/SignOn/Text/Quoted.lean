import SignOn.Text.Hex
import SignOn.Text.Hidden

/-!
# Quoted texts

A text is shown between quotes, with escapes for the quote, the backslash, the usual controls and
everything that is hidden.
-/

namespace SignOn.Text

set_option autoImplicit false

/-- A character as it stands between quotes. -/
def quoteCharacter (character : Char) : List Char :=
  if character = '"' then ['\\', '"']
  else if character = '\\' then ['\\', '\\']
  else if character = '\x00' then ['\\', '0']
  else if character = '\t' then ['\\', 't']
  else if character = '\n' then ['\\', 'n']
  else if character = '\r' then ['\\', 'r']
  else if isHidden character then
    ['\\', 'u', '\x7b'] ++ hexOfNat character.toNat ++ ['\x7d']
  else [character]

/-- A text between quotes. -/
def quote (text : String) : String :=
  String.ofList ('"' :: text.toList.flatMap quoteCharacter ++ ['"'])

end SignOn.Text
