import SignOn.Text.Base64Url

/-!
# Base64 with padding

Header fields carry bytes in the usual base64 alphabet, padded to groups of four characters.  It
differs from the alphabet that is safe in addresses in the last two characters only.
-/

namespace SignOn.Text.Base64

set_option autoImplicit false

/-- The character of the usual alphabet in the place of one that is safe in addresses. -/
def usual (character : Char) : Char :=
  if character = '-' then '+' else if character = '_' then '/' else character

/-- The characters that write some bytes, in groups of four. -/
def encode (bytes : List UInt8) : List Char :=
  let characters := (Base64Url.encode bytes).map usual
  characters ++ List.replicate ((4 - characters.length % 4) % 4) '='

end SignOn.Text.Base64
