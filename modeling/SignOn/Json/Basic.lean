import SignOn.Decimal.Scaling

/-!
# JSON values

A value keeps what a reader of structured data can tell apart: the members of an object in the order
in which they stand, repeated names included, and for a number whether it is an integer of at most
sixty-four bits or a real one.

A literal may be well formed and yet denote nothing: a number may lie beyond the range of binary
numbers, and the bytes or the escapes of a string may not be those of characters.  Such a literal,
or an object that has one among its names, may stand where nobody looks and fails where somebody
does.  It says whether a reader that gives up on it has come to its end by then, so that another may
go on behind it.
-/

namespace SignOn

set_option autoImplicit false

/-! ## Numbers -/

/-- A number literal.  Literals without a fraction and an exponent that fit into sixty-four bits,
with a sign or without, are integers; minus zero and all others are reals. -/
inductive Json.Number where
  | integer (value : Int)
  | real (negative : Bool) (magnitude : Decimal.Binary64)
  /-- A number beyond the range, with whether its reader comes to its end. -/
  | tooLarge (passed : Bool)
deriving DecidableEq, Repr

namespace Json.Number

/-- The least integer of sixty-four bits with a sign. -/
def leastInteger : Int := -9223372036854775808

/-- The greatest integer of sixty-four bits without a sign. -/
def greatestInteger : Nat := 18446744073709551615

/-! ### The size of a literal -/

/-- The digits of a whole number, as many as fit into sixty-four bits after a value, and how many
do not. -/
def takeWhole (value : Nat) : List Char → Nat × Nat
  | [] => (value, 0)
  | digit :: rest =>
      let longer := value * 10 + (digit.toNat - 48)
      if longer ≤ greatestInteger then takeWhole longer rest else (value, rest.length + 1)

/-- The digits of a fraction, as many as fit into sixty-four bits after a value, and how many these
are. -/
def takePlaces (value : Nat) : List Char → Nat × Nat
  | [] => (value, 0)
  | digit :: rest =>
      let longer := value * 10 + (digit.toNat - 48)
      if longer ≤ greatestInteger then
        let (whole, count) := takePlaces longer rest
        (whole, count + 1)
      else (value, 0)

/-- The greatest size of an exponent that is counted. -/
def greatestExponent : Nat := 2147483647

/-- The real number of some significant digits and an exponent.  A reader of an exponent gives up at
the digit with which it grows too great. -/
def ofScientific (negative : Bool) (significand : Nat) (start power : Int) : Number :=
  if power.natAbs ≤ greatestExponent then
    match Decimal.Binary64.scaled? significand (start + power) with
    | some magnitude => .real negative magnitude
    | none => .tooLarge true
  else if significand = 0 ∨ power < 0 then .real negative .zero
  else .tooLarge (power.natAbs / 10 ≤ greatestExponent)

/-! ### Reading literals -/

/-- Whether a minus sign stands in front, and what follows it. -/
def takeMinus : List Char → Bool × List Char
  | '-' :: rest => (true, rest)
  | rest => (false, rest)

/-- The number that a literal denotes: an optional minus sign, digits without a leading zero, an
optional fraction and an optional exponent. -/
def ofLiteral? (characters : List Char) : Option Number :=
  let (negative, rest) := takeMinus characters
  let digits := rest.takeWhile Char.isDigit
  let rest := rest.dropWhile Char.isDigit
  if digits.isEmpty || (digits.length > 1 && digits.head? = some '0') then none
  else
    match fraction rest with
    | none => none
    | some (places, rest) =>
        match exponent rest with
        | none => none
        | some (power, []) =>
            let (whole, left) := takeWhole 0 digits
            let value : Int := if negative then -whole else whole
            if places.isEmpty && power.isNone && left = 0 && !(negative && whole = 0) &&
                leastInteger ≤ value then
              some (.integer value)
            else
              let (significand, taken) := takePlaces whole places
              some (ofScientific negative significand (left - taken) (power.getD 0))
        | some (_, _ :: _) => none
where
  /-- The digits of an optional fraction, with what follows. -/
  fraction : List Char → Option (List Char × List Char)
    | '.' :: rest =>
        let places := rest.takeWhile Char.isDigit
        if places.isEmpty then none else some (places, rest.dropWhile Char.isDigit)
    | rest => some ([], rest)
  /-- The value of an optional exponent, with what follows. -/
  exponent : List Char → Option (Option Int × List Char)
    | 'e' :: rest | 'E' :: rest =>
        let (negative, rest) := match rest with
          | '-' :: more => (true, more)
          | '+' :: more => (false, more)
          | more => (false, more)
        let found := rest.takeWhile Char.isDigit
        let value : Int := Text.valueOfDigits found
        if found.isEmpty then none
        else some (some (if negative then -value else value), rest.dropWhile Char.isDigit)
    | rest => some (none, rest)

end Json.Number

/-! ## Values -/

/-- A JSON value. -/
inductive Json where
  | null
  | boolean (value : Bool)
  | number (value : Json.Number)
  | string (text : String)
  | array (items : List Json)
  | object (members : List (String × Json))
  /-- A string that spells no text, or an object with a name that spells none. -/
  | unreadable (passed : Bool)

namespace Json

/-- An integer as a value. -/
def ofInt (value : Int) : Json :=
  .number (.integer value)

/-- A natural number as a value. -/
def ofNat (value : Nat) : Json :=
  .number (.integer value)

/-- A text or null. -/
def ofOption (text : Option String) : Json :=
  match text with
  | some text => .string text
  | none => .null

/-- The text of a string. -/
def asString? : Json → Option String
  | .string text => some text
  | _ => none

/-- The truth value of a boolean. -/
def asBoolean? : Json → Option Bool
  | .boolean value => some value
  | _ => none

/-- The value of an integer. -/
def asInteger? : Json → Option Int
  | .number (.integer value) => some value
  | _ => none

/-- The value of an integer of sixty-four bits with a sign. -/
def asSigned64? (json : Json) : Option Int :=
  json.asInteger?.filter fun value => value ≤ 9223372036854775807

/-- The value of an integer that is not negative. -/
def asNatural? (json : Json) : Option Nat :=
  (json.asInteger?.filter fun value => 0 ≤ value).map Int.toNat

/-- Null as nothing, and every other value through a reader. -/
def nullable {α : Type} (read : Json → Option α) : Json → Option (Option α)
  | .null => some none
  | json => (read json).map some

/-- One of several named values, given by its name or by an object whose only member has that name
and the value null. -/
def asTag? {α : Type} (tag : String → Option α) : Json → Option α
  | .string text => tag text
  | .object [(name, .null)] => tag name
  | _ => none

/-- The value of the last member of a name, if the value is an object with such a member. -/
def member? (json : Json) (name : String) : Option Json :=
  match json with
  | .object members => (members.reverse.find? fun member => member.1 = name).map Prod.snd
  | _ => none

end Json

end SignOn
