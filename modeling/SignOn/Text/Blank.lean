/-!
# Blank characters

A character is *blank* when it carries the Unicode white-space property.  Credentials are
presented with blanks around them, and a profile field made of blanks alone counts as missing, so
both rules rest on the one predicate of this module.

The property covers the ASCII controls from tab to carriage return, the space, the next-line
control, the no-break space, the ogham space mark, the typographic spaces from U+2000 to U+200A, the
line and paragraph separators, the narrow no-break space, the mathematical space and the
ideographic space.  The zero-width space and the byte-order mark are not blank.
-/

namespace SignOn.Text

set_option autoImplicit false

/-! ## The property -/

/-- The code points of blank characters, as closed ranges in ascending order. -/
def blankRanges : List (Nat × Nat) :=
  [(0x09, 0x0D), (0x20, 0x20), (0x85, 0x85), (0xA0, 0xA0), (0x1680, 0x1680), (0x2000, 0x200A),
   (0x2028, 0x2029), (0x202F, 0x202F), (0x205F, 0x205F), (0x3000, 0x3000)]

/-- Whether a character carries the white-space property. -/
def isBlank (character : Char) : Bool :=
  blankRanges.any fun range => range.1 ≤ character.toNat && character.toNat ≤ range.2

/-- Whether a text holds nothing but blank characters; the empty text does. -/
def allBlank (text : String) : Bool :=
  text.toList.all isBlank

/-! ## Removing blanks at both ends -/

/-- The characters that remain when leading and trailing ones that satisfy a test are left out. -/
def stripBoth (test : Char → Bool) (characters : List Char) : List Char :=
  ((characters.dropWhile test).reverse.dropWhile test).reverse

/-- A text without the blank characters at its two ends. -/
def trim (text : String) : String :=
  String.ofList (stripBoth isBlank text.toList)

end SignOn.Text
