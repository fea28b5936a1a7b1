import SignOn.Decimal.Binary64

/-!
# Decimal numbers by one multiplication

A quick way to hold a decimal number in binary: its digits, as many as a word holds, and the power
of ten are rounded on their own, and one product or quotient of the two is rounded again.  The
result is close to the decimal, but not always the nearest binary number, and a decimal just below
the end of the range may be found too large.
-/

namespace SignOn.Decimal

set_option autoImplicit false

namespace Binary64

/-- The binary number nearest to a product, unless that is too large. -/
def times? (first second : Binary64) : Option Binary64 :=
  let parts := scaleDown (first.significand * second.significand) 1
    (-(first.exponent + second.exponent))
  nearestFraction parts.1 parts.2

/-- The binary number nearest to a quotient, unless that is too large. -/
def over? (first second : Binary64) : Option Binary64 :=
  let parts := scaleDown first.significand second.significand (second.exponent - first.exponent)
  nearestFraction parts.1 parts.2

/-- The greatest exponent of a power of ten within the range. -/
def mostTens : Nat := 308

/-- The binary number nearest to a power of ten within the range. -/
def powerOfTen (exponent : Nat) : Binary64 :=
  (nearest 1 exponent).getD zero

/-- A number times a power of ten, in at most the given count of steps.  A power below the range is
taken in several steps, the third of which finds nothing left. -/
def scaleSteps : Nat → Binary64 → Int → Option Binary64
  | 0, _, _ => some zero
  | steps + 1, number, exponent =>
      if number.significand = 0 then some zero
      else if exponent.natAbs ≤ mostTens then
        if 0 ≤ exponent then number.times? (powerOfTen exponent.toNat)
        else number.over? (powerOfTen exponent.natAbs)
      else if 0 ≤ exponent then none
      else
        (number.over? (powerOfTen mostTens)).bind fun quotient =>
          scaleSteps steps quotient (exponent + mostTens)

/-- The binary number that `significand * 10 ^ exponent` is taken for, unless it is found too
large. -/
def scaled? (significand : Nat) (exponent : Int) : Option Binary64 :=
  (nearest significand 0).bind fun number => scaleSteps 3 number exponent

end Binary64

end SignOn.Decimal
