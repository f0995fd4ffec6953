import OData.Text.Digits

/-!
# Times of Day

A time is a number of whole seconds since midnight and a number of
nanoseconds. The nanoseconds of the last second of a minute may run on through
a leap second: from one thousand million on they count the leap second itself,
which is written as second 60 and is equal to no other time.

The fraction has three, six or nine digits, the fewest that are exact, and is
left out when it is zero.

## Main definitions

* `TimeOfDay`: Seconds since midnight and nanoseconds.
* `TimeOfDay.of?`: The time for a pair of counts.
* `TimeOfDay.text`: The literal.

## Theorems

* `TimeOfDay.of?_eq_some`: An existing time is built from its own parts.
-/

namespace OData

namespace Calendar

/-- The seconds of a day. -/
def secondsPerDay : Nat := 86400

/-- The nanoseconds of a second. -/
def nanosPerSecond : Nat := 1000000000

/-- Whether the counts name a moment of the day: the nanoseconds stay within
    their second, or within the leap second after second 59. -/
def IsMoment (secs nanos : Nat) : Prop :=
  secs < secondsPerDay ∧
    (nanos < nanosPerSecond ∨ (nanos < 2 * nanosPerSecond ∧ secs % 60 = 59))

instance (secs nanos : Nat) : Decidable (IsMoment secs nanos) :=
  inferInstanceAs (Decidable (_ ∧ _))

end Calendar

open Calendar

/-- A time of day. -/
structure TimeOfDay where
  /-- The whole seconds since midnight, without the leap second. -/
  secs : Nat
  /-- The nanoseconds since then. -/
  nanos : Nat
  /-- The counts name a moment of the day. -/
  valid : IsMoment secs nanos
deriving DecidableEq

namespace TimeOfDay

/-- The time with the given counts, if there is one. -/
def of? (secs nanos : Nat) : Option TimeOfDay :=
  if h : IsMoment secs nanos then some ⟨secs, nanos, h⟩ else none

/-- The second as it is written: 60 in a leap second. -/
def second (t : TimeOfDay) : Nat :=
  t.secs % 60 + t.nanos / nanosPerSecond

/-- The nanoseconds within the written second. -/
def fraction (t : TimeOfDay) : Nat :=
  t.nanos % nanosPerSecond

/-- A point and the fewest of three, six or nine digits that are exact, or
    nothing. -/
def fractionText (nanos : Nat) : List Char :=
  if nanos = 0 then []
  else if nanos % 1000000 = 0 then '.' :: Text.padded 3 (nanos / 1000000)
  else if nanos % 1000 = 0 then '.' :: Text.padded 6 (nanos / 1000)
  else '.' :: Text.padded 9 nanos

/-- The literal of a time of day. -/
def text (t : TimeOfDay) : String :=
  let two (n : Nat) := String.ofList (Text.padded 2 n)
  ":".intercalate [two (t.secs / 3600), two (t.secs / 60 % 60), two t.second] ++
    String.ofList (fractionText t.fraction)

@[simp]
theorem of?_eq_some (t : TimeOfDay) : of? t.secs t.nanos = some t :=
  dif_pos t.valid

end TimeOfDay

end OData
