/-!
# Decimal digits

Numbers are written in decimal without leading zeros, or padded with zeros to a width where a
format fixes one.  `ofDigits?` reads a text that consists of digits, and gives back the number that
`digits` wrote.
-/

namespace SignOn.Text

set_option autoImplicit false

/-- The decimal digits of a number. -/
def digits (value : Nat) : List Char :=
  Nat.toDigits 10 value

/-- The decimal digits of a number, with zeros in front up to a width. -/
def paddedDigits (width value : Nat) : List Char :=
  List.replicate (width - (digits value).length) '0' ++ digits value

/-- The decimal digits of an integer, with a minus sign in front of a negative one. -/
def signedDigits (value : Int) : List Char :=
  if value < 0 then '-' :: digits value.natAbs else digits value.natAbs

/-- The number that a sequence of digit characters denotes. -/
def valueOfDigits (characters : List Char) : Nat :=
  characters.foldl (fun value digit => value * 10 + (digit.toNat - 48)) 0

/-- The number that a text of one digit or more denotes. -/
def ofDigits? (characters : List Char) : Option Nat :=
  if !characters.isEmpty && characters.all Char.isDigit then some (valueOfDigits characters)
  else none

/-- The digits in front of a text, at most as many as given, and what follows them. -/
def takeDigits (most : Nat) (characters : List Char) : List Char × List Char :=
  ((characters.take most).takeWhile Char.isDigit,
   characters.drop ((characters.take most).takeWhile Char.isDigit).length)

end SignOn.Text
