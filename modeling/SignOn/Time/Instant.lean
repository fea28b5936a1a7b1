/-!
# Instants and durations

An instant is a whole number of nanoseconds since the start of 1970, before it negative; a duration
is a number of nanoseconds that is never negative.  The calendar ends: it reaches from the start of
the year -262143 to the last nanosecond of the year 262142, and an instant outside it cannot be
stored.
-/

namespace SignOn

set_option autoImplicit false

/-! ## Instants -/

/-- A point in time, as nanoseconds since the start of 1970 in universal time. -/
structure Instant where
  nanoseconds : Int
deriving DecidableEq, Repr

namespace Instant

instance : LE Instant := ⟨fun first second => first.nanoseconds ≤ second.nanoseconds⟩
instance : LT Instant := ⟨fun first second => first.nanoseconds < second.nanoseconds⟩

instance (first second : Instant) : Decidable (first ≤ second) :=
  inferInstanceAs (Decidable (first.nanoseconds ≤ second.nanoseconds))

instance (first second : Instant) : Decidable (first < second) :=
  inferInstanceAs (Decidable (first.nanoseconds < second.nanoseconds))

/-- The instant a number of whole seconds after the start of 1970. -/
def ofSeconds (seconds : Int) : Instant :=
  ⟨seconds * 1000000000⟩

/-- The instant a number of whole milliseconds after the start of 1970. -/
def ofMilliseconds (milliseconds : Int) : Instant :=
  ⟨milliseconds * 1000000⟩

/-- The last whole second that is not after an instant. -/
def seconds (instant : Instant) : Int :=
  instant.nanoseconds / 1000000000

/-- The nanoseconds that an instant lies after its last whole second. -/
def subsecond (instant : Instant) : Nat :=
  (instant.nanoseconds % 1000000000).toNat

/-- The first whole second of the calendar. -/
def firstSecond : Int := -8334601228800

/-- The last whole second of the calendar. -/
def lastSecond : Int := 8210266876799

/-- Whether an instant lies within the calendar. -/
def isRepresentable (instant : Instant) : Bool :=
  firstSecond ≤ instant.seconds && instant.seconds ≤ lastSecond

end Instant

/-! ## Durations -/

/-- A length of time, in nanoseconds. -/
structure Duration where
  nanoseconds : Nat
deriving DecidableEq, Repr

namespace Duration

/-- A number of whole seconds. -/
def ofSeconds (seconds : Nat) : Duration :=
  ⟨seconds * 1000000000⟩

/-- A number of whole milliseconds. -/
def ofMilliseconds (milliseconds : Nat) : Duration :=
  ⟨milliseconds * 1000000⟩

/-- The whole seconds of a duration. -/
def seconds (duration : Duration) : Nat :=
  duration.nanoseconds / 1000000000

/-- The longest duration that can be added to an instant: the greatest signed number of sixty-four
bits, in milliseconds. -/
def longest : Duration :=
  ofMilliseconds 9223372036854775807

instance : LE Duration := ⟨fun first second => first.nanoseconds ≤ second.nanoseconds⟩

instance (first second : Duration) : Decidable (first ≤ second) :=
  inferInstanceAs (Decidable (first.nanoseconds ≤ second.nanoseconds))

/-- The instant a duration after another. -/
def after (duration : Duration) (instant : Instant) : Instant :=
  ⟨instant.nanoseconds + duration.nanoseconds⟩

end Duration

end SignOn
