import SignOn.Text.Digits

/-!
# Decimal numbers and their nearest binary numbers

Numbers with a fraction are read as decimals and held in the binary format of fifty-three
significant bits.  `nearest` finds the binary number closest to a decimal, a tie going to the even
one, and `shortest` goes back: it finds the decimal with the fewest digits that the binary number is
closest to.  Both work with exact natural numbers.
-/

namespace SignOn.Decimal

set_option autoImplicit false

/-- The non-negative binary number `significand * 2 ^ exponent`. -/
structure Binary64 where
  significand : Nat
  exponent : Int
deriving DecidableEq, Repr

namespace Binary64

/-- The number zero. -/
def zero : Binary64 := ⟨0, -1074⟩

/-- The quotient rounded to the nearest natural number, a tie going to the even one. -/
def roundDiv (numerator denominator : Nat) : Nat :=
  let quotient := numerator / denominator
  let rest := numerator % denominator
  if 2 * rest > denominator ∨ (2 * rest = denominator ∧ quotient % 2 = 1) then quotient + 1
  else quotient

/-- A fraction divided by a power of two, as numerator and denominator. -/
def scaleDown (numerator denominator : Nat) (power : Int) : Nat × Nat :=
  if power ≥ 0 then (numerator, denominator * Nat.pow 2 power.toNat)
  else (numerator * Nat.pow 2 (-power).toNat, denominator)

/-- The binary number nearest to a fraction, unless the fraction is too large for the format. -/
def nearestFraction (numerator denominator : Nat) : Option Binary64 :=
  let guess : Int := max (-1074) ((Nat.log2 numerator : Int) - Nat.log2 denominator - 53)
  let fits (power : Int) : Bool :=
    let scaled := scaleDown numerator denominator power
    scaled.1 / scaled.2 < Nat.pow 2 53
  let power := if fits guess then guess else if fits (guess + 1) then guess + 1 else guess + 2
  let scaled := scaleDown numerator denominator power
  let rounded := roundDiv scaled.1 scaled.2
  let result : Binary64 :=
    if rounded = Nat.pow 2 53 then ⟨Nat.pow 2 52, power + 1⟩ else ⟨rounded, power⟩
  if result.exponent > 971 then none else some result

/-- The binary number nearest to `value * 10 ^ exponent`, unless that is too large. -/
def nearest (value : Nat) (exponent : Int) : Option Binary64 :=
  let width : Int := (Text.digits value).length
  if value = 0 then some zero
  else if width + exponent > 310 then none
  else if width + exponent < -330 then some zero
  else if exponent ≥ 0 then nearestFraction (value * Nat.pow 10 exponent.toNat) 1
  else nearestFraction value (Nat.pow 10 (-exponent).toNat)

/-- Whether the binary number is the nearest one to a fraction: the fraction lies between the
midpoints to the two neighbours, a midpoint counting when the significand is even. -/
def isNearestTo (number : Binary64) (numerator denominator : Nat) : Bool :=
  let quarters := scaleDown numerator denominator (number.exponent - 2)
  let below := if number.significand = Nat.pow 2 52 ∧ number.exponent > -1074 then 1 else 2
  let low := (4 * number.significand - below) * quarters.2
  let high := (4 * number.significand + 2) * quarters.2
  if number.significand % 2 = 0 then low ≤ quarters.1 && quarters.1 ≤ high
  else low < quarters.1 && quarters.1 < high

/-- The number as numerator and denominator. -/
def fraction (number : Binary64) : Nat × Nat :=
  scaleDown number.significand 1 (-number.exponent)

/-- The least power of ten above the number, searched from a given one upwards. -/
def scaleFrom (number : Binary64) : Nat → Int → Int
  | 0, power => power
  | count + 1, power =>
      let parts := number.fraction
      let above :=
        if power ≥ 0 then parts.1 < Nat.pow 10 power.toNat * parts.2
        else parts.1 * Nat.pow 10 (-power).toNat < parts.2
      if above then power else scaleFrom number count (power + 1)

/-- Of the two decimals around the number with a given last place, the nearer one that reads back,
and the greater one when both are as near. -/
def candidate (number : Binary64) (place : Int) : Option Nat :=
  let parts := number.fraction
  let scaled := if place ≥ 0 then (parts.1, parts.2 * Nat.pow 10 place.toNat)
    else (parts.1 * Nat.pow 10 (-place).toNat, parts.2)
  let below := scaled.1 / scaled.2
  let readsBack (value : Nat) : Bool :=
    if place ≥ 0 then number.isNearestTo (value * Nat.pow 10 place.toNat) 1
    else number.isNearestTo value (Nat.pow 10 (-place).toNat)
  let preferred := (2 * scaled.1 + scaled.2) / (2 * scaled.2)
  let other := if preferred = below then below + 1 else below
  if readsBack preferred then some preferred
  else if readsBack other then some other
  else none

/-- A decimal without trailing zeros in its digits. -/
def stripZeros : Nat → Nat → Int → Nat × Int
  | 0, value, place => (value, place)
  | count + 1, value, place =>
      if value % 10 = 0 ∧ value ≠ 0 then stripZeros count (value / 10) (place + 1) else (value, place)

/-- The digits and the power of ten of the shortest decimal that reads back as the number. -/
def shortest (number : Binary64) : Nat × Int :=
  if number.significand = 0 then (0, 0)
  else
    let estimate : Int := ((Nat.log2 number.significand : Int) + number.exponent) * 30103 / 100000 - 1
    let scale := scaleFrom number 6 estimate
    match (List.range 17).findSome? fun (count : Nat) =>
        (candidate number (scale - (count + 1))).map fun value => (value, scale - (count + 1)) with
    | some (value, place) => stripZeros 20 value place
    | none => (number.significand, 0)

/-- The shortest decimal that reads back, written without an exponent. -/
def positionalText (number : Binary64) : List Char :=
  let (value, place) := number.shortest
  let written := Text.digits value
  if place ≥ 0 then
    if value = 0 then ['0'] else written ++ List.replicate place.toNat '0'
  else
    let places := (-place).toNat
    let padded := List.replicate (places + 1 - written.length) '0' ++ written
    padded.take (padded.length - places) ++ '.' :: padded.drop (padded.length - places)

end Binary64

end SignOn.Decimal
