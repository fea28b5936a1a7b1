import SignOn.Failure
import SignOn.Time.DurationText

/-!
# When entries lapse

An entry that is written for a lifetime lapses that long after the instant of writing.  A lifetime
that cannot be added to any instant is refused as an error of the store.  One that can be, but leads
past the end of the calendar, has no answer: the operation breaks off without an effect.
-/

namespace SignOn.Store

set_option autoImplicit false

/-- Why a store gives no answer. -/
inductive Fault where
  /-- The store reports an error. -/
  | refused (error : StoreError)
  /-- The calendar ends before the entry would lapse. -/
  | calendarEnd
deriving DecidableEq, Repr

/-- The instant at which an entry lapses that is written now. -/
def expiry (now : Instant) (lifetime : Duration) : Except Fault Instant :=
  if lifetime ≤ Duration.longest then
    if (lifetime.after now).isRepresentable then .ok (lifetime.after now) else .error .calendarEnd
  else .error (.refused (.backend ("ttl out of range: " ++ lifetime.text)))

/-- What a first look finds at a key whose entries lapse. -/
inductive Sight (α : Type) where
  | absent
  | live (value : α)
  | lapsed
deriving DecidableEq, Repr

end SignOn.Store
