import OData.Calendar.Date
import OData.Calendar.TimeOfDay

/-!
# Instants

An instant is a date and a time of day in universal time. A leap second is an
instant of its own, different from the seconds on both sides of it.

Instants are also counted in seconds since the start of 1970. The count is
split at midnight, rounding down, so that instants before 1970 have a time of
day that runs forward as well.

## Main definitions

* `Instant`: A date and a time of day.
* `Instant.ofUnix?`: The instant for a count of seconds since 1970.
* `Instant.text`: The literal.
-/

namespace OData

open Calendar

/-- A point in universal time. -/
structure Instant where
  /-- The day. -/
  date : Date
  /-- The time of that day. -/
  time : TimeOfDay
deriving DecidableEq

namespace Instant

/-- The instant with the given seconds since the start of 1970 and nanoseconds
    since then, if its year is supported. -/
def ofUnix? (secs : Int) (nanos : Nat) : Option Instant := do
  let time ← TimeOfDay.of? (secs % secondsPerDay).toNat nanos
  let date ← Date.ofDays? (secs / secondsPerDay)
  return ⟨date, time⟩

/-- The literal of an instant: date, `T`, time, and `Z` for universal time. -/
def text (i : Instant) : String :=
  i.date.text ++ "T" ++ i.time.text ++ "Z"

end Instant

end OData
