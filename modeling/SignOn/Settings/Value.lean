import SignOn.Decimal.Binary64
import SignOn.Settings.Form
import SignOn.Settings.Path

/-!
# Configuration values

What a configuration file and the environment give is a tree of values.  A text may stand for a
number or a truth value, and a number or a truth value for a text, so a setting can be given in
any of these ways.  Trees are merged leaf by leaf: a table is taken apart, and every other value
takes the place of what is there.
-/

namespace SignOn.Settings

set_option autoImplicit false

/-! ## Real numbers -/

/-- A number with a fraction, or one of the values beyond all numbers. -/
inductive Real where
  | finite (negative : Bool) (magnitude : Decimal.Binary64)
  | infinite (negative : Bool)
  | undefined
deriving DecidableEq, Repr

namespace Real

/-- The number nearest to a decimal. -/
def ofDecimal (negative : Bool) (digits : Nat) (exponent : Int) : Real :=
  match Decimal.Binary64.nearest digits exponent with
  | some magnitude => .finite negative magnitude
  | none => .infinite negative

/-- The text of a number: the shortest decimal that reads back, without an exponent. -/
def text : Real → String
  | .finite negative magnitude =>
      String.ofList ((if negative then ['-'] else []) ++ magnitude.positionalText)
  | .infinite false => "inf"
  | .infinite true => "-inf"
  | .undefined => "NaN"

/-- The nearest number of sixty-four bits without a sign, a half going up. -/
def toNatural : Real → Nat
  | .finite false magnitude =>
      let parts := magnitude.fraction
      min ((2 * parts.1 + parts.2) / (2 * parts.2)) 18446744073709551615
  | .finite true _ => 0
  | .infinite false => 18446744073709551615
  | .infinite true => 0
  | .undefined => 0

/-- Whether a value is a number that the binary format reaches. -/
def isFinite : Real → Bool
  | .finite _ _ => true
  | _ => false

/-- Whether a number is zero. -/
def isZero : Real → Bool
  | .finite _ magnitude => magnitude.significand = 0
  | _ => false

end Real

/-! ## Values -/

/-- A value of a configuration. -/
inductive Value where
  /-- The item of an array at a place that nothing has been put to. -/
  | null
  | boolean (value : Bool)
  | integer (value : Int)
  | real (value : Real)
  | text (value : String)
  | array (items : List Value)
  | table (members : List (String × Value))

namespace Value

/-- The members of a table; every other value has none. -/
def members : Value → List (String × Value)
  | .table members => members
  | _ => []

/-- The items of an array; every other value has none. -/
def items : Value → List Value
  | .array items => items
  | _ => []

/-! ## Merging -/

/-- Members with the value of a name replaced or added. -/
def withMember (members : List (String × Value)) (name : String) (value : Value) :
    List (String × Value) :=
  if members.any fun member => member.1 = name then
    members.map fun member => if member.1 = name then (name, value) else member
  else members ++ [(name, value)]

/-- The value of a name, or null. -/
def memberOrNull (members : List (String × Value)) (name : String) : Value :=
  match members.find? fun member => member.1 = name with
  | some member => member.2
  | none => .null

mutual

/-- A value with another merged into it: the members of a table one by one, every other value in the
place of what is there. -/
def merge (current : Value) : Value → Value
  | .table incoming => .table (mergeMembers current.members incoming)
  | value => value

/-- Members with others merged into them. -/
def mergeMembers (members : List (String × Value)) :
    List (String × Value) → List (String × Value)
  | [] => members
  | (name, value) :: rest =>
      mergeMembers (withMember members name (merge (memberOrNull members name) value)) rest

end

/-- Items that reach to a place, with the index of that place.  Missing items are null; a place
before the first item is made in front. -/
def reach (items : List Value) (place : Int) : List Value × Nat :=
  let index : Int := if place < 0 then items.length + place else place
  if index < 0 then (List.replicate index.natAbs .null ++ items, 0)
  else (items ++ List.replicate (index.toNat + 1 - items.length) .null, index.toNat)

/-- A value with another merged into the part at the end of a path.  Whatever stands in the way is
made a table or an array. -/
def mergeAt (current : Value) : List Step → Value → Value
  | [], value => current.merge value
  | .member name :: rest, value =>
      .table (withMember current.members name
        (mergeAt (memberOrNull current.members name) rest value))
  | .item place :: rest, value =>
      let (items, index) := reach current.items place
      .array (items.modify index fun item => mergeAt item rest value)

/-! ## Liberal reading -/

/-- A truth value in words, in letters of either case. -/
def ofWords? (text : String) : Option Bool :=
  let word := String.ofList (text.toList.map Char.toLower)
  if ["true", "on", "yes"].contains word then some true
  else if ["false", "off", "no"].contains word then some false
  else none

/-- Digits after an optional plus sign, up to sixty-four bits. -/
def unsigned? (text : String) : Option Nat :=
  let digits := match text.toList with
    | '+' :: rest => rest
    | rest => rest
  (Text.ofDigits? digits).filter (· ≤ 18446744073709551615)

/-- A text, a number or a truth value as a text. -/
def asText? : Value → Option String
  | .text value => some value
  | .boolean true => some "true"
  | .boolean false => some "false"
  | .integer value => some (String.ofList (Text.signedDigits value))
  | .real value => some value.text
  | _ => none

/-- A number, a truth value or their text as a number without a sign. -/
def asNatural? : Value → Option Nat
  | .integer value => if 0 ≤ value then some value.toNat else none
  | .boolean value => some (if value then 1 else 0)
  | .real value => some value.toNatural
  | .text value =>
      match ofWords? value with
      | some truth => some (if truth then 1 else 0)
      | none => unsigned? value
  | _ => none

/-- A truth value, a number other than zero, or their text as a truth value. -/
def asBoolean? : Value → Option Bool
  | .boolean value => some value
  | .integer value => some (value ≠ 0)
  | .real value => some !value.isZero
  | .text value =>
      if value = "1" then some true
      else if value = "0" then some false
      else ofWords? value
  | _ => none

/-- The fields of a table, or of an array that gives them in order. -/
def fields? (names : List String) : Value → Option (String → Field Value)
  | .table members => some (fieldOfMembers members)
  | .array items => some (fieldOfItems names items)
  | _ => none

end Value

/-- The form of configuration values. -/
def Form.liberal : Form Value where
  fields? := Value.fields?
  isNull
    | .null => true
    | _ => false
  text? := Value.asText?
  natural? := Value.asNatural?
  boolean? := Value.asBoolean?

end SignOn.Settings
