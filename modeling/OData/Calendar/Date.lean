import OData.Text.Digits

/-!
# Calendar Dates

Days of the proleptic Gregorian calendar, in which the year zero exists and
the leap-year rule holds for all time.

The literal has a four-digit year. A year that does not fit, or a negative
one, carries an explicit sign and at least four digits, so that no two dates
share a text.

A day can also be found by counting: `ofDays?` turns a number of days since
1 January 1970 into a date. Counting is easiest in years that begin on 1 March,
because then the leap day is the last one, and every month up to February
starts at a fixed offset. Four hundred such years have 146097 days.

## Main definitions

* `Date`: A day that exists, in a year of the supported range.
* `Date.ofYmd?`: The day for a year, month and day number.
* `Date.ofDays?`: The day for a count since 1 January 1970.
* `Date.text`: The literal.

## Theorems

* `Date.ofYmd?_eq_some`: An existing date is built from its own parts.
-/

namespace OData

namespace Calendar

/-- The first supported year. -/
def minYear : Int := -262143

/-- The last supported year. -/
def maxYear : Int := 262142

/-- Whether a year has a leap day. -/
def isLeap (year : Int) : Bool :=
  year % 4 == 0 && (year % 100 != 0 || year % 400 == 0)

/-- How many days a month has. -/
def daysInMonth (year : Int) (month : Nat) : Nat :=
  if month = 2 then (if isLeap year then 29 else 28)
  else if month = 4 ∨ month = 6 ∨ month = 9 ∨ month = 11 then 30
  else 31

/-- Whether year, month and day name a day of the supported range. -/
def IsDay (year : Int) (month day : Nat) : Prop :=
  minYear ≤ year ∧ year ≤ maxYear ∧ 1 ≤ month ∧ month ≤ 12 ∧
    1 ≤ day ∧ day ≤ daysInMonth year month

instance (year : Int) (month day : Nat) : Decidable (IsDay year month day) :=
  inferInstanceAs (Decidable (_ ∧ _))

end Calendar

open Calendar

/-- A day of the calendar. -/
structure Date where
  /-- The year, zero and negative ones included. -/
  year : Int
  /-- The month, from 1. -/
  month : Nat
  /-- The day of the month, from 1. -/
  day : Nat
  /-- The day exists. -/
  valid : IsDay year month day
deriving DecidableEq

namespace Date

/-- The day with the given year, month and day number, if it exists. -/
def ofYmd? (year : Int) (month day : Nat) : Option Date :=
  if h : IsDay year month day then some ⟨year, month, day, h⟩ else none

/-- The day that is a number of days after 1 January 1970, if its year is
    supported. -/
def ofDays? (days : Int) : Option Date :=
  -- Days since 1 March of the year 0, as a number of eras and a day of the era.
  let sinceMarch := days + 719468
  let era := sinceMarch / 146097
  let dayOfEra := (sinceMarch % 146097).toNat
  -- Taking away the leap days passed leaves years of 365 days.
  let yearOfEra := (dayOfEra - dayOfEra / 1460 + dayOfEra / 36524 - dayOfEra / 146096) / 365
  let dayOfYear := dayOfEra - (365 * yearOfEra + yearOfEra / 4 - yearOfEra / 100)
  -- Five months from March on have 153 days.
  let monthFromMarch := (5 * dayOfYear + 2) / 153
  let day := dayOfYear - (153 * monthFromMarch + 2) / 5 + 1
  let month := if monthFromMarch < 10 then monthFromMarch + 3 else monthFromMarch - 9
  let year := yearOfEra + era * 400 + (if month ≤ 2 then 1 else 0)
  ofYmd? year month day

/-- The year with four digits, or with a sign where that is not enough. -/
def yearText (year : Int) : String :=
  if 0 ≤ year ∧ year ≤ 9999 then String.ofList (Text.padded 4 year.natAbs)
  else (if year < 0 then "-" else "+") ++ String.ofList (Text.padded 4 year.natAbs)

/-- The literal of a date. -/
def text (d : Date) : String :=
  "-".intercalate
    [yearText d.year, String.ofList (Text.padded 2 d.month), String.ofList (Text.padded 2 d.day)]

@[simp]
theorem ofYmd?_eq_some (d : Date) : ofYmd? d.year d.month d.day = some d :=
  dif_pos d.valid

end Date

end OData
