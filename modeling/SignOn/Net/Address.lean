import SignOn.Text.Digits
import SignOn.Text.Hex
import SignOn.Text.Split

/-!
# Network addresses

An address has four octets or eight groups of sixteen bits.  The second form is written in lowercase
hexadecimal with its longest run of two or more zero groups left out, the first of several equally
long ones.  It is read with one such gap anywhere and with its last two groups as four octets if so
written; octets have no leading zeros, groups have one to four digits.

The audit trail renders a caller by `originText`: addresses of the second form that stand for one of
the first are written as that, and so is the loopback address.
-/

namespace SignOn.Net

set_option autoImplicit false

/-! ## Addresses -/

/-- Four octets. -/
structure Ipv4 where
  first : UInt8
  second : UInt8
  third : UInt8
  fourth : UInt8
deriving DecidableEq, Repr

/-- Eight groups of sixteen bits. -/
structure Ipv6 where
  groups : List UInt16
  length_eq : groups.length = 8 := by rfl
deriving DecidableEq, Repr

/-- An address of either form. -/
inductive Address where
  | v4 (octets : Ipv4)
  | v6 (groups : Ipv6)
deriving DecidableEq, Repr

namespace Ipv4

/-- The address of the machine itself. -/
def loopback : Ipv4 := ⟨127, 0, 0, 1⟩

/-- Four octets in decimal, with points between them. -/
def text (address : Ipv4) : List Char :=
  Text.digits address.first.toNat ++ '.' :: Text.digits address.second.toNat ++
    '.' :: Text.digits address.third.toNat ++ '.' :: Text.digits address.fourth.toNat

end Ipv4

namespace Ipv6

/-- The address of the machine itself. -/
def loopback : Ipv6 := ⟨[0, 0, 0, 0, 0, 0, 0, 1], rfl⟩

/-! ## Writing the long form -/

/-- The number of zero groups in front. -/
def zerosInFront (groups : List UInt16) : Nat :=
  (groups.takeWhile (· = 0)).length

/-- The place and the length of the longest run of zero groups, the first of several. -/
def longestRun (groups : List UInt16) : Nat × Nat :=
  (List.range groups.length).foldl
    (fun best place =>
      if best.2 < zerosInFront (groups.drop place) then (place, zerosInFront (groups.drop place))
      else best)
    (0, 0)

/-- Groups in hexadecimal, with colons between them. -/
def groupsText (groups : List UInt16) : List Char :=
  Text.joinWith ':' (groups.map fun group => Text.hexOfNat group.toNat)

/-- An address with its longest run of zero groups left out, when that has two groups at least. -/
def text (address : Ipv6) : List Char :=
  let run := longestRun address.groups
  if 2 ≤ run.2 then
    groupsText (address.groups.take run.1) ++ ':' :: ':' ::
      groupsText (address.groups.drop (run.1 + run.2))
  else groupsText address.groups

end Ipv6

namespace Address

/-- An address as text. -/
def text : Address → String
  | .v4 octets => String.ofList octets.text
  | .v6 groups => String.ofList groups.text

/-! ## Addresses that stand for others -/

/-- The four octets that an address of the long form stands for: five zero groups and one of all
ones come before them. -/
def canonical : Address → Address
  | .v4 octets => .v4 octets
  | .v6 long =>
      match long.groups with
      | [0, 0, 0, 0, 0, 0xFFFF, high, low] =>
          .v4 ⟨(high >>> 8).toUInt8, high.toUInt8, (low >>> 8).toUInt8, low.toUInt8⟩
      | _ => .v6 long

end Address

/-- The rendering of a caller whose address is not known. -/
def unknownOrigin : String := "unknown"

/-- The rendering of a caller in the audit trail. -/
def originText (origin : Option Address) : String :=
  match origin.map Address.canonical with
  | none => unknownOrigin
  | some (.v6 long) =>
      if long = Ipv6.loopback then (Address.v4 Ipv4.loopback).text else (Address.v6 long).text
  | some address => address.text

/-! ## Reading -/

/-- An octet in front of a text: at most three digits, no leading zero, at most 255. -/
def readOctet (characters : List Char) : Option (UInt8 × List Char) :=
  let found := characters.takeWhile Char.isDigit
  let value := Text.valueOfDigits found
  if found.isEmpty || found.length > 3 || (found.length > 1 && found.head? = some '0') || value > 255
  then none
  else some (UInt8.ofNat value, characters.dropWhile Char.isDigit)

/-- What follows a character in front of a text. -/
def readCharacter (character : Char) : List Char → Option (List Char)
  | found :: rest => if found = character then some rest else none
  | [] => none

/-- Four octets in front of a text. -/
def readIpv4 (characters : List Char) : Option (Ipv4 × List Char) := do
  let (first, rest) ← readOctet characters
  let (second, rest) ← readOctet (← readCharacter '.' rest)
  let (third, rest) ← readOctet (← readCharacter '.' rest)
  let (fourth, rest) ← readOctet (← readCharacter '.' rest)
  some (⟨first, second, third, fourth⟩, rest)

/-- A group in front of a text: one to four hexadecimal digits. -/
def readGroup (characters : List Char) : Option (UInt16 × List Char) :=
  let found := characters.takeWhile fun c => (Text.hexValue? c).isSome
  let rest := characters.dropWhile fun c => (Text.hexValue? c).isSome
  if found.isEmpty || found.length > 4 then none
  else
    let value := found.foldl (fun value digit => value * 16 + (Text.hexValue? digit).getD 0) 0
    some (UInt16.ofNat value, rest)

/-- The groups in front of a text, at most as many as given, whether they end in four octets, and
what follows them.  Every group but the first has a colon before it, and four octets fill the last
two places that they find. -/
def readGroups : Nat → Bool → List Char → List UInt16 × Bool × List Char
  | 0, _, characters => ([], false, characters)
  | limit + 1, isFirst, characters =>
      match if isFirst then some characters else readCharacter ':' characters with
      | none => ([], false, characters)
      | some body =>
          match if limit = 0 then none else readIpv4 body with
          | some (octets, rest) =>
              ([octets.first.toUInt16 <<< 8 ||| octets.second.toUInt16,
                octets.third.toUInt16 <<< 8 ||| octets.fourth.toUInt16], true, rest)
          | none =>
              match readGroup body with
              | none => ([], false, characters)
              | some (group, rest) =>
                  let (groups, inOctets, rest) := readGroups limit false rest
                  (group :: groups, inOctets, rest)

/-- Eight groups as an address. -/
def Ipv6.ofGroups? (groups : List UInt16) : Option Ipv6 :=
  if h : groups.length = 8 then some ⟨groups, h⟩ else none

/-- An address of the long form, that has to fill the text. -/
def readIpv6 (characters : List Char) : Option Ipv6 :=
  match readGroups 8 true characters with
  | (front, inOctets, rest) =>
      if front.length = 8 then
        if rest.isEmpty then Ipv6.ofGroups? front else none
      else if inOctets then none
      else
        match rest with
        | ':' :: ':' :: more =>
            match readGroups (7 - front.length) true more with
            | (back, _, []) =>
                Ipv6.ofGroups? (front ++ List.replicate (8 - front.length - back.length) 0 ++ back)
            | _ => none
        | _ => none

/-- The address that a text denotes. -/
def Address.ofText? (text : String) : Option Address :=
  match readIpv4 text.toList with
  | some (octets, []) => some (.v4 octets)
  | _ => (readIpv6 text.toList).map .v6

/-- The address in a text that has a port after it; an address of the long form stands in
brackets. -/
def Address.ofEndpoint? (text : String) : Option Address :=
  match Text.splitLast? ':' text.toList with
  | none => none
  | some (host, port) =>
      if ((Text.ofDigits? port).filter (· < 65536)).isNone then none
      else
        match host with
        | '[' :: inner =>
            if inner.getLast? = some ']' then (readIpv6 inner.dropLast).map .v6 else none
        | _ =>
            match readIpv4 host with
            | some (octets, []) => some (.v4 octets)
            | _ => none

end SignOn.Net
