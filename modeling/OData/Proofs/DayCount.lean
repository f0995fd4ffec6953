import Mathlib.Tactic.IntervalCases
import OData.Calendar.Instant

/-!
# Counting Days

The date for a count of days, checked against the number of days that lie
before a date.

The number of days before a date is a plain sum when years begin on 1 March.
Before a year there are 365 days for every year and one more for every leap day
that has passed, and before a month there are as many as the months since March
have. The way from a count to a date takes the sum apart again. An era of four
hundred years is taken off by division, but years and months within it are not
all of one length, so they are found with divisions that are right only
because the longer ones come last. `EraDay` says which ones are longer.

So counts and dates correspond: a count leads to a date exactly when that date
is so many days away. With the seconds of the day counted on, the same holds of
instants, and two counts never lead to one instant.

## Main definitions

* `Calendar.yearOfEra`, `Calendar.yearStart`: The year of a day within an era,
  and the days before a year.
* `Calendar.EraDay`: A day of an era as centuries, cycles, years and days.
* `Date.days`: The days from 1 January 1970 to a date.

## Theorems

* `Calendar.yearOfEra_spec`: A day falls into the year that is found for it.
* `Calendar.yearOfEra_eq`: And into no other.
* `Date.dayOfYear_lt`, `Date.dayOfYear_le`: Where months and years end.
* `Date.ofDays?_eq_some_iff`: The date for a count is so many days away.
* `Instant.ofUnix?_eq_some_iff`: The instant for a count is so many seconds and
  nanoseconds away.
-/

namespace OData

open Calendar

namespace Calendar

/-- The year of an era that a day belongs to. Years begin on 1 March. -/
def yearOfEra (day : Nat) : Nat :=
  (day - day / 1460 + day / 36524 - day / 146096) / 365

/-- The days of an era before a year. -/
def yearStart (year : Nat) : Nat :=
  365 * year + year / 4 - year / 100

/-- The days of a year before a month, counted from March. -/
def monthStart (month : Nat) : Nat :=
  (153 * month + 2) / 5

/-- A month, counted from March on. -/
def fromMarch (month : Nat) : Nat :=
  if month ≤ 2 then month + 9 else month - 3

/-- The month that was counted from March on. -/
def toJanuary (month : Nat) : Nat :=
  if month < 10 then month + 3 else month - 9

/-- The days before a year, counted from the year 0. -/
def daysBefore (year : Int) : Int :=
  365 * year + year / 4 - year / 100 + year / 400

/-- A day of an era as centuries, cycles of four years, years and days. Only the
    last year of a cycle and the last century may be a day longer. -/
structure EraDay (e century cycle year day : Nat) : Prop where
  sum : e = 36524 * century + 1461 * cycle + 365 * year + day
  century_le : century ≤ 3
  cycle_le : cycle ≤ 24
  year_le : year ≤ 3
  day_lt : day < 365 ∨ (year = 3 ∧ day = 365)
  cycles_lt : 1461 * cycle + 365 * year + day < 36524 ∨
    (century = 3 ∧ 1461 * cycle + 365 * year + day = 36524)

theorem exists_eraDay {e : Nat} (h : e < 146097) :
    ∃ century cycle year day, EraDay e century cycle year day := by
  have hcentury : ∃ k r, e = 36524 * k + r ∧ k ≤ 3 ∧ (r < 36524 ∨ (k = 3 ∧ r = 36524)) :=
    ⟨min (e / 36524) 3, e - 36524 * min (e / 36524) 3, by omega⟩
  rcases hcentury with ⟨k, r, he, hk, hr⟩
  have hyear : ∃ i d, r % 1461 = 365 * i + d ∧ i ≤ 3 ∧ (d < 365 ∨ (i = 3 ∧ d = 365)) :=
    ⟨min (r % 1461 / 365) 3, r % 1461 - 365 * min (r % 1461 / 365) 3, by omega⟩
  rcases hyear with ⟨i, d, hd, hi, hlt⟩
  exact ⟨k, r / 1461, i, d, by omega, hk, by omega, hi, hlt, by omega⟩

theorem EraDay.yearOfEra_eq {e k j i d : Nat} (h : EraDay e k j i d) :
    yearOfEra e = 100 * k + 4 * j + i := by
  rcases h with ⟨he, hk, hj, hi, hd, hc⟩
  have hcentury : e / 36524 - e / 146096 = k := by omega
  have hera : e / 146096 ≤ 1 := by omega
  -- One day too many is taken off, but only late in the last year of a cycle.
  have hcycle : e / 1460 = 25 * k + j ∨ (e / 1460 = 25 * k + j + 1 ∧ 1364 ≤ 365 * i + d) := by omega
  unfold yearOfEra
  omega

theorem yearOfEra_spec {e : Nat} (h : e < 146097) :
    yearOfEra e ≤ 399 ∧ yearStart (yearOfEra e) ≤ e ∧
      (e < yearStart (yearOfEra e + 1) ∨ yearOfEra e = 399) := by
  rcases exists_eraDay h with ⟨k, j, i, d, hday⟩
  rw [hday.yearOfEra_eq]
  rcases hday with ⟨he, hk, hj, hi, hd, hc⟩
  have hfour : (100 * k + 4 * j + i) / 4 = 25 * k + j := by omega
  have hhundred : (100 * k + 4 * j + i) / 100 = k := by omega
  unfold yearStart
  refine ⟨by omega, by omega, ?_⟩
  by_cases hlast : i = 3
  · have hnext : (100 * k + 4 * j + i + 1) / 4 = 25 * k + j + 1 := by omega
    omega
  · have hnext : (100 * k + 4 * j + i + 1) / 4 = 25 * k + j := by omega
    omega

theorem yearStart_mono {y z : Nat} (h : y ≤ z) : yearStart y ≤ yearStart z := by
  induction h with
  | refl => exact Nat.le_refl _
  | step _ ih =>
      refine Nat.le_trans ih ?_
      unfold yearStart
      omega

theorem yearOfEra_eq {e y : Nat} (he : e < 146097) (hy : y ≤ 399) (hle : yearStart y ≤ e)
    (hlt : e < yearStart (y + 1) ∨ y = 399) : yearOfEra e = y := by
  rcases yearOfEra_spec he with ⟨hz, hzle, hzlt⟩
  rcases Nat.lt_trichotomy (yearOfEra e) y with h | h | h
  · have hnext := yearStart_mono (show yearOfEra e + 1 ≤ y from h)
    omega
  · exact h
  · have hnext := yearStart_mono (show y + 1 ≤ yearOfEra e from h)
    omega

theorem toJanuary_fromMarch {month : Nat} (h : 1 ≤ month) (h' : month ≤ 12) :
    toJanuary (fromMarch month) = month := by
  unfold toJanuary fromMarch
  split <;> split <;> omega

theorem fromMarch_toJanuary {month : Nat} (h : month < 12) :
    fromMarch (toJanuary month) = month := by
  unfold toJanuary fromMarch
  split <;> split <;> omega

-- The year 0 is a leap year, so its months are as long as any.
theorem daysInMonth_le (year : Int) (month : Nat) :
    daysInMonth year month ≤ daysInMonth 0 month := by
  unfold daysInMonth
  split
  · split <;> decide
  · exact Nat.le_refl _

theorem daysBefore_era (era : Int) {year : Nat} (h : year ≤ 399) :
    daysBefore (year + era * 400) = 146097 * era + yearStart year := by
  have hquarter : ((year : Int) + era * 400) / 4 = ((year / 4 : Nat) : Int) + era * 100 := by omega
  have hcentury : ((year : Int) + era * 400) / 100 = ((year / 100 : Nat) : Int) + era * 4 := by
    omega
  have hera : ((year : Int) + era * 400) / 400 = era := by omega
  unfold daysBefore yearStart
  rw [hquarter, hcentury, hera]
  omega

end Calendar

namespace Date

/-- The year of a date, if years began on 1 March. -/
def marchYear (d : Date) : Int :=
  if d.month ≤ 2 then d.year - 1 else d.year

/-- The month of a date, counted from March on. -/
def marchMonth (d : Date) : Nat :=
  fromMarch d.month

/-- The day of its year, if years began on 1 March. -/
def dayOfYear (d : Date) : Nat :=
  monthStart d.marchMonth + (d.day - 1)

/-- The days from 1 January 1970 to a date. -/
def days (d : Date) : Int :=
  daysBefore d.marchYear + d.dayOfYear - 719468

theorem ofDays?_eq (days : Int) :
    ofDays? days =
      let era := (days + 719468) / 146097
      let dayOfEra := ((days + 719468) % 146097).toNat
      let dayOfYear := dayOfEra - yearStart (yearOfEra dayOfEra)
      let month := (5 * dayOfYear + 2) / 153
      ofYmd? (yearOfEra dayOfEra + era * 400 + (if toJanuary month ≤ 2 then 1 else 0))
        (toJanuary month) (dayOfYear - monthStart month + 1) := rfl

theorem ofYmd?_eq_some_iff {y : Int} {m n : Nat} {d : Date} :
    ofYmd? y m n = some d ↔ d.year = y ∧ d.month = m ∧ d.day = n := by
  constructor
  · intro h
    unfold ofYmd? at h
    split at h
    · rw [← Option.some.inj h]
      exact ⟨rfl, rfl, rfl⟩
    · exact absurd h nofun
  · rintro ⟨rfl, rfl, rfl⟩
    exact ofYmd?_eq_some d

theorem days_of_ofDays? {n : Int} {d : Date} (h : ofDays? n = some d) : d.days = n := by
  rw [ofDays?_eq] at h
  rcases ofYmd?_eq_some_iff.mp h with ⟨hyear, hmonth, hday⟩
  clear h
  have hlt : ((n + 719468) % 146097).toNat < 146097 := by omega
  have hsplit : n + 719468 = 146097 * ((n + 719468) / 146097) +
      (((n + 719468) % 146097).toNat : Int) := by omega
  generalize ((n + 719468) % 146097).toNat = e at *
  generalize (n + 719468) / 146097 = era at *
  rcases yearOfEra_spec hlt with ⟨hy, hle, hnext⟩
  have hera := daysBefore_era era hy
  have hlong : e - yearStart (yearOfEra e) ≤ 365 := by
    unfold yearStart at *
    omega
  generalize yearOfEra e = y at *
  generalize hdoy : e - yearStart y = doy at *
  have hm : monthStart ((5 * doy + 2) / 153) ≤ doy ∧ (5 * doy + 2) / 153 < 12 := by
    unfold monthStart
    omega
  generalize (5 * doy + 2) / 153 = m at *
  rw [← hmonth] at hyear
  have hyear' : d.marchYear = y + era * 400 := by
    unfold marchYear
    split at hyear <;> split <;> omega
  have hmonth' : d.marchMonth = m := by
    rw [marchMonth, hmonth, fromMarch_toJanuary hm.2]
  rw [days, dayOfYear, hyear', hmonth', hera]
  omega

/-- Every month ends before the next one begins. -/
theorem dayOfYear_lt (d : Date) : d.dayOfYear < monthStart (d.marchMonth + 1) := by
  have hfits : ∀ m, 1 ≤ m → m ≤ 12 → monthStart (fromMarch m) + daysInMonth 0 m ≤
      monthStart (fromMarch m + 1) := by
    intro m hm hm'
    interval_cases m <;> decide
  rcases d.valid with ⟨-, -, hmonth, hmonth', hone, hday⟩
  have hfit := hfits d.month hmonth hmonth'
  have hlong := daysInMonth_le d.year d.month
  unfold dayOfYear marchMonth
  omega

/-- Only a leap day is day 365 of its year. -/
theorem dayOfYear_le (d : Date) :
    d.dayOfYear < 365 ∨
      (d.dayOfYear = 365 ∧ d.marchYear = d.year - 1 ∧ isLeap d.year = true) := by
  rcases d.valid with ⟨-, -, hmonth, hmonth', -, hday⟩
  by_cases hfeb : d.month = 2
  · have hdoy : d.dayOfYear = 337 + (d.day - 1) := by
      rw [dayOfYear, marchMonth, hfeb]
      rfl
    have hyear : d.marchYear = d.year - 1 := if_pos (Nat.le_of_eq hfeb)
    rw [daysInMonth, if_pos hfeb] at hday
    by_cases hleap : isLeap d.year = true
    · rw [if_pos hleap] at hday
      by_cases hlast : d.day = 29
      · exact Or.inr ⟨by omega, hyear, hleap⟩
      · omega
    · rw [if_neg hleap] at hday
      omega
  · have hlt := d.dayOfYear_lt
    unfold marchMonth fromMarch monthStart at hlt
    split at hlt <;> omega

theorem isLeap_iff {year : Int} :
    isLeap year = true ↔ year % 4 = 0 ∧ (year % 100 ≠ 0 ∨ year % 400 = 0) := by
  simp only [isLeap, Bool.and_eq_true, Bool.or_eq_true, beq_iff_eq, bne_iff_ne]

/-- Counting from a date and back. -/
@[simp]
theorem ofDays?_days (d : Date) : ofDays? d.days = some d := by
  obtain ⟨y, era, hy, hyear⟩ : ∃ (y : Nat) (era : Int), y ≤ 399 ∧ d.marchYear = y + era * 400 :=
    ⟨(d.marchYear % 400).toNat, d.marchYear / 400, by omega, by omega⟩
  have hera := daysBefore_era era hy
  have hnext : yearStart y + d.dayOfYear < yearStart (y + 1) ∨ (y = 399 ∧ d.dayOfYear ≤ 365) := by
    have hsucc : yearStart y + 365 ≤ yearStart (y + 1) := by
      unfold yearStart
      omega
    rcases d.dayOfYear_le with hlt | ⟨hdoy, hmarch, hleap⟩
    · omega
    · rw [isLeap_iff] at hleap
      unfold yearStart
      omega
  have hlt : yearStart y + d.dayOfYear < 146097 := by
    have hlast : yearStart (y + 1) ≤ yearStart 400 := yearStart_mono (by omega)
    have hlast' : yearStart 400 = 146096 := rfl
    rcases hnext with hnext | ⟨rfl, hdoy⟩
    · omega
    · have : yearStart 399 = 145731 := rfl
      omega
  have hcount : d.days + 719468 = 146097 * era + (yearStart y + d.dayOfYear : Nat) := by
    rw [days, hyear, hera]
    omega
  have hdoe : ((d.days + 719468) % 146097).toNat = yearStart y + d.dayOfYear := by omega
  have hera' : (d.days + 719468) / 146097 = era := by omega
  have hy' : yearOfEra (yearStart y + d.dayOfYear) = y :=
    yearOfEra_eq hlt hy (Nat.le_add_right _ _) (by omega)
  have hmonth : (5 * d.dayOfYear + 2) / 153 = d.marchMonth := by
    have hstart : monthStart d.marchMonth ≤ d.dayOfYear := Nat.le_add_right _ _
    have hend := d.dayOfYear_lt
    unfold monthStart at hstart hend
    omega
  have hday : d.dayOfYear - monthStart d.marchMonth = d.day - 1 := Nat.add_sub_cancel_left _ _
  rcases d.valid with ⟨-, -, hfirst, hlast, hone, -⟩
  rw [ofDays?_eq]
  simp only [hdoe, hera', hy', Nat.add_sub_cancel_left, hmonth, hday]
  have hback : toJanuary d.marchMonth = d.month := toJanuary_fromMarch hfirst hlast
  rw [hback, ← hyear]
  refine ofYmd?_eq_some_iff.mpr ⟨?_, rfl, by omega⟩
  unfold marchYear
  split <;> omega

theorem ofDays?_eq_some_iff {n : Int} {d : Date} : ofDays? n = some d ↔ d.days = n := by
  refine ⟨days_of_ofDays?, ?_⟩
  rintro rfl
  exact ofDays?_days d

end Date

theorem TimeOfDay.of?_eq_some_iff {secs nanos : Nat} {t : TimeOfDay} :
    of? secs nanos = some t ↔ t.secs = secs ∧ t.nanos = nanos := by
  constructor
  · intro h
    unfold of? at h
    split at h
    · rw [← Option.some.inj h]
      exact ⟨rfl, rfl⟩
    · exact absurd h nofun
  · rintro ⟨rfl, rfl⟩
    exact of?_eq_some t

/-- An instant is so many seconds and nanoseconds away from the start of 1970 as
    it was made from. -/
theorem Instant.ofUnix?_eq_some_iff {secs : Int} {nanos : Nat} {i : Instant} :
    ofUnix? secs nanos = some i ↔
      i.date.days * secondsPerDay + i.time.secs = secs ∧ i.time.nanos = nanos := by
  have hlt := i.time.valid.1
  simp only [ofUnix?, Option.bind_eq_bind, Option.bind_eq_some_iff, Option.pure_def,
    Option.some.injEq, Date.ofDays?_eq_some_iff, TimeOfDay.of?_eq_some_iff]
  unfold secondsPerDay at *
  constructor
  · rintro ⟨time, ⟨hsecs, hnanos⟩, date, hdays, rfl⟩
    dsimp only at hlt ⊢
    exact ⟨by omega, hnanos⟩
  · rintro ⟨hsecs, hnanos⟩
    exact ⟨i.time, ⟨by omega, hnanos⟩, i.date, by omega, rfl⟩

end OData
