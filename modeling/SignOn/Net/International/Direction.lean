import SignOn.Net.International.Mark

/-!
# Directions of labels

Some scripts are written from the right.  A domain name that holds one of their characters could
be shown so that parts of two labels change places, so each of its labels must then have one
direction: it begins with a letter, holds only characters that keep to the direction of that letter,
and ends in a letter or a number.  The tables follow version 17 of the Unicode character database
and are meant for characters that domain names can hold: their ranges run over others.
-/

namespace SignOn.Net.International

set_option autoImplicit false

/-! ## Tables -/

/-- Letters that are written from the right. -/
def rightText : String :=
  "5BE 5C0 5C3 5C6 5D0-5F4 7C0-7EA 7F4-7F5 7FA 7FE-815 81A 824 828 830-858 85E 10800-1091B
   10920-10A00 10A10-10A35 10A40-10AE4 10AEB-10B35 10B40-10CFF 10D40-10D4F 10D6F-10D8F 10E80-10EA9
   10EAD-10EB1 10F00-10F27 10F70-10F81 10F86-10FF6 1E800-1E8CF 1E922-1E943 1E94B-1E95F"

/-- Letters of the Arabic kind, which are written from the right as well. -/
def arabicText : String :=
  "608 60B 60D 61B-64A 66D-66F 671-6D5 6E5-6E6 6EE-6EF 6FA-710 712-72F 74D-7A5 7B1 860-88F 8A0-8C9
   FBB2-FBC2 FE73 10D00-10D23 10EC2-10EC7 10F30-10F45 10F51-10F59 1EC71-1ED3D"

/-- Numbers of the Arabic kind. -/
def arabicNumberText : String :=
  "660-669 66B-66C 10D30-10D39 10E60-10E7E"

/-- Numbers that are written from the left everywhere. -/
def numberText : String :=
  "6F0-6F9 102E1-102FB"

/-- Signs in front of numbers. -/
def signText : String :=
  "2212"

/-- Characters that stand beside numbers, such as currency signs. -/
def terminatorText : String :=
  "A2-A5 B0-B1 58F 609-60A 66A 9F2-9F3 9FB AF1 BF9 E3F 17DB 2030-2032 20A0-20C1 212E 2213
   A838-A839 11FDD-11FE0 1E2FF"

/-- Separators within numbers. -/
def separatorText : String :=
  "60C 2044"

/-- Characters without a direction. -/
def neutralText : String :=
  "A1 A6-AE B6-D7 F7 2B9-2BA 2C2-2CF 2D2-2ED 2EF-2FF 375 3F6 58A-58E 606-607 60E-60F 6DE 6E9
   7F6-7F9 BF3-BF8 BFA C78-C7E F3A-F3D 1390-1399 1400 169B-169C 17F0-180A 1940-1945 19DE-19FF
   2010-2027 2035-2043 2045-205E 2104-2129 213A-214D 218A-2211 2214-2335 237B-2394 2396-26AB
   26AD-27FF 2900-2BFF 2CE5-2CEA 2CF9-2CFF 2E00-3004 3008-3020 3030 3037 303D-303F 30A0 30FB
   31C0-31E5 4DC0-4DFF A490-A4C6 A60D-A60F A673 A67E-A67F A700-A721 A788 A828-A82B A874-A877
   AB6A-AB6B FBC3-FDFF FE45-FE46 10101 10140-1018C 10190-101A0 1091F 10B39-10B3F 10D6E 10ED0-10ED8
   11052-11065 11660-1166C 11FD5-11FDC 11FE1-11FF1 16FE2 1CC00-1CEF0 1D1E9-1D241 1D245 1D300-1D356
   1EEF0-1F12F 1F16D-1F16F 1F1AD 1F260-1FBFA"

/-! ## Directions of characters -/

/-- How a character is placed in a line. -/
inductive Direction where
  /-- A letter that is written from the left. -/
  | left
  /-- A letter that is written from the right. -/
  | right
  /-- A letter of the Arabic kind, written from the right. -/
  | arabic
  /-- A number of the Arabic kind. -/
  | arabicNumber
  /-- A number that is written from the left everywhere. -/
  | number
  /-- A sign in front of a number. -/
  | sign
  /-- A character that stands beside numbers. -/
  | terminator
  /-- A separator within numbers. -/
  | separator
  /-- A mark, placed with the character before it. -/
  | attached
  /-- A character that is not seen. -/
  | unseen
  /-- A character without a direction. -/
  | neutral
deriving DecidableEq

/-- The directions of ASCII characters. -/
def asciiDirection (character : Char) : Direction :=
  if character.isAlpha then .left
  else if character.isDigit then .number
  else if character = '+' ∨ character = '-' then .sign
  else if character = '#' ∨ character = '$' ∨ character = '%' then .terminator
  else if character = ',' ∨ character = '.' ∨ character = '/' ∨ character = ':' then .separator
  else .neutral

/-- The direction of the characters in each table. -/
def directions : List (List Text.CodeTable.Row × Direction) :=
  [(Text.CodeTable.rows "CBF CC6 11A07-11A08 11C3F", .left), (attachedMarks, .attached),
    (Text.CodeTable.rows rightText, .right), (Text.CodeTable.rows arabicText, .arabic),
    (Text.CodeTable.rows arabicNumberText, .arabicNumber),
    (Text.CodeTable.rows numberText, .number), (Text.CodeTable.rows signText, .sign),
    (Text.CodeTable.rows terminatorText, .terminator),
    (Text.CodeTable.rows separatorText, .separator), (Text.CodeTable.rows "200C-200D", .unseen),
    (Text.CodeTable.rows neutralText, .neutral)]

/-- The direction of a character.  Characters in no table are letters that are written from the
left. -/
def directionOf (character : Char) : Direction :=
  if character.toNat < 0x80 then asciiDirection character
  else
    ((directions.find? fun entry => Text.CodeTable.covers entry.1 character.toNat).map
      Prod.snd).getD .left

/-! ## Directions of labels -/

/-- Whether a character is written from the right. -/
def Direction.isFromRight (direction : Direction) : Bool :=
  direction ∈ [.right, .arabic, .arabicNumber]

/-- Whether a label of characters with the given directions has one direction. -/
def isOneWay (label : List Direction) : Bool :=
  let neutral : List Direction := [.number, .sign, .separator, .terminator, .neutral, .unseen, .attached]
  let last := (label.reverse.dropWhile (· = .attached)).head?
  match label.head? with
  | none => true
  | some .left => label.all (· ∈ .left :: neutral) && last.any (· ∈ [.left, .number])
  | some .right | some .arabic =>
      label.all (· ∈ .right :: .arabic :: .arabicNumber :: neutral) &&
        last.any (· ∈ [.right, .arabic, .number, .arabicNumber]) &&
        !(.number ∈ label && .arabicNumber ∈ label)
  | some _ => false

/-- Whether the labels of a domain name keep to their directions.  Where nothing is written from the
right they always do. -/
def keepDirections (labels : List (List Char)) : Bool :=
  let placed := labels.map fun label => label.map directionOf
  !(placed.any fun label => label.any Direction.isFromRight) || placed.all isOneWay

end SignOn.Net.International
