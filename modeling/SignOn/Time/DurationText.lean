import SignOn.Text.Digits
import SignOn.Time.Instant

/-!
# The text of a duration

Messages that name a duration write it in the largest unit of which it holds at least one: seconds,
milliseconds, microseconds or nanoseconds.  What is left over follows as a decimal fraction without
trailing zeros.
-/

namespace SignOn.Duration

set_option autoImplicit false

/-- The digits of a fraction of the given width without its trailing zeros, after a point; nothing
for zero. -/
def fractionText (width value : Nat) : List Char :=
  let kept := ((Text.paddedDigits width value).reverse.dropWhile (· = '0')).reverse
  if value = 0 then [] else '.' :: kept

/-- A duration in the largest unit of which it holds at least one. -/
def text (duration : Duration) : String :=
  let total := duration.nanoseconds
  let written (unit width : Nat) (name : String) : String :=
    String.ofList (Text.digits (total / unit) ++ fractionText width (total % unit)) ++ name
  if total ≥ 1000000000 then written 1000000000 9 "s"
  else if total ≥ 1000000 then written 1000000 6 "ms"
  else if total ≥ 1000 then written 1000 3 "µs"
  else written 1 0 "ns"

end SignOn.Duration
