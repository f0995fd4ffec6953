import OData.Proofs.Cut
import OData.Proofs.Literal

/-!
# Dates and Times Read Back

Dates and times are written in fields of digits, with a mark between any two
fields that occurs in neither. So a literal is cut at its marks and every field
is read as a number. The sign of a year is taken off first, because the same
dash stands between the fields. A fraction is scaled by its own length, and
second 60 is the leap second that follows second 59.

Nothing is asked of the fields, since the readers are only there to show that
a literal determines what it was written for.

## Main definitions

* `Date.ofText?`, `TimeOfDay.ofText?`, `Instant.ofText?`: What a literal is read
  as.

## Theorems

* `TimeOfDay.exists_isFraction`: Fractions of all widths are scaled back.
* `TimeOfDay.counts_of_fields`: A leap second goes back to second 59.
* `Date.ofText?_text`, `TimeOfDay.ofText?_text`, `Instant.ofText?_text`:
  Literals are read back.
-/

namespace OData

open Calendar Text

-- A number that fits is padded to just that width.
theorem Text.length_padded_of_lt {width n : Nat} (hwidth : 0 < width) (h : n < 10 ^ width) :
    (padded width n).length = width := by
  have hlength : (digits n).length ≤ width :=
    (Nat.length_toDigits_le_iff (by decide) hwidth).mpr h
  rw [length_padded, Nat.max_eq_left hlength]

namespace Date

/-- The date that a literal is read as. -/
def ofText? (s : String) : Option Date :=
  match splitSign s.toList with
  | (sign, fields) =>
    match pieces '-' (String.ofList fields) with
    | [year, month, day] =>
      ofYmd? (sign * ofDigits year.toList) (ofDigits month.toList) (ofDigits day.toList)
    | _ => none

/-- The fields of a date without the sign of its year. -/
def fields (d : Date) : List String :=
  [String.ofList (padded 4 d.year.natAbs), String.ofList (padded 2 d.month),
    String.ofList (padded 2 d.day)]

@[simp]
theorem pieces_fields (d : Date) : pieces '-' ("-".intercalate d.fields) = d.fields := by
  have hfields : ∀ t ∈ d.fields, Over (IsDigitOr []) t := by
    simp only [fields, List.forall_mem_cons]
    exact ⟨over_padded _ _, over_padded _ _, over_padded _ _, nofun⟩
  exact pieces_joined rfl nofun fun t ht => (hfields t ht).closed (by decide)

/-- The sign of a year is in front of its digits, or there is none. -/
theorem splitSign_text (d : Date) :
    ∃ sign, splitSign d.text.toList = (sign, ("-".intercalate d.fields).toList) ∧
      sign * d.year.natAbs = d.year := by
  have hhead : ∃ c cs, ("-".intercalate d.fields).toList = c :: cs ∧ c.isDigit = true := by
    cases hyear : padded 4 d.year.natAbs with
    | nil =>
        have hlength := length_padded 4 d.year.natAbs
        rw [hyear, List.length_nil] at hlength
        omega
    | cons c cs =>
        have hc : c ∈ padded 4 d.year.natAbs := hyear ▸ List.mem_cons_self
        rw [fields, String.intercalate_cons_cons, hyear, String.toList_append,
          String.toList_append, String.toList_ofList]
        exact ⟨c, _, rfl, isDigit_of_mem_padded hc⟩
  rcases hhead with ⟨c, cs, hfields, hc⟩
  unfold text yearText
  by_cases hplain : 0 ≤ d.year ∧ d.year ≤ 9999
  · rw [if_pos hplain]
    refine ⟨1, ?_, by omega⟩
    exact hfields ▸ splitSign_of_isDigit hc
  · rw [if_neg hplain, String.intercalate_cons_append, String.toList_append]
    by_cases hneg : d.year < 0
    · rw [if_pos hneg]
      exact ⟨-1, rfl, by omega⟩
    · rw [if_neg hneg]
      exact ⟨1, rfl, by omega⟩

@[simp]
theorem ofText?_text (d : Date) : ofText? d.text = some d := by
  rcases splitSign_text d with ⟨sign, hsplit, hyear⟩
  rw [ofText?, hsplit]
  simp only [String.ofList_toList, pieces_fields]
  simp only [fields, String.toList_ofList, ofDigits_padded]
  rw [hyear]
  exact ofYmd?_eq_some d

end Date

namespace TimeOfDay

/-- The time that a literal is read as. -/
def ofText? (s : String) : Option TimeOfDay :=
  match pieces ':' s with
  | [hour, minute, seconds] =>
    match Number.parts seconds.toList with
    | (second, fraction, _) =>
      -- A leap second goes on where second 59 ends.
      let leap := ofDigits second - 59
      of? (3600 * ofDigits hour.toList + 60 * ofDigits minute.toList + (ofDigits second - leap))
        (leap * nanosPerSecond + ofDigits fraction * 10 ^ (9 - fraction.length))
  | _ => none

/-- Digits behind a point that stand for the nanoseconds of a fraction. -/
structure IsFraction (nanos : Nat) (ds : List Char) : Prop where
  digits : ∀ c ∈ ds, c.isDigit = true
  text : ∀ whole, whole ++ fractionText nanos = Number.mantissa whole ds
  scaled : ofDigits ds * 10 ^ (9 - ds.length) = nanos

theorem isFraction_padded {nanos width n : Nat}
    (htext : fractionText nanos = '.' :: padded width n) (hwidth : 0 < width)
    (hn : n < 10 ^ width) (hscaled : n * 10 ^ (9 - width) = nanos) :
    IsFraction nanos (padded width n) := by
  have hlength := length_padded_of_lt hwidth hn
  have hne : padded width n ≠ [] := List.ne_nil_of_length_pos (by omega)
  refine ⟨fun _ => isDigit_of_mem_padded, fun whole => ?_, ?_⟩
  · rw [htext, Number.mantissa, if_neg hne]
  · simp [hlength, hscaled]

/-- Fractions of all widths are scaled back. -/
theorem exists_isFraction {nanos : Nat} (h : nanos < nanosPerSecond) :
    ∃ ds, IsFraction nanos ds := by
  unfold nanosPerSecond at h
  by_cases hzero : nanos = 0
  · refine ⟨[], fun c hc => absurd hc List.not_mem_nil, fun whole => ?_, ?_⟩
    · rw [fractionText, if_pos hzero, List.append_nil]
      rfl
    · rw [hzero]
      rfl
  · by_cases hmilli : nanos % 1000000 = 0
    · have htext : fractionText nanos = '.' :: padded 3 (nanos / 1000000) := by
        rw [fractionText, if_neg hzero, if_pos hmilli]
      exact ⟨_, isFraction_padded htext (by decide) (by omega) (by omega)⟩
    · by_cases hmicro : nanos % 1000 = 0
      · have htext : fractionText nanos = '.' :: padded 6 (nanos / 1000) := by
          rw [fractionText, if_neg hzero, if_neg hmilli, if_pos hmicro]
        exact ⟨_, isFraction_padded htext (by decide) (by omega) (by omega)⟩
      · have htext : fractionText nanos = '.' :: padded 9 nanos := by
          rw [fractionText, if_neg hzero, if_neg hmilli, if_neg hmicro]
        exact ⟨_, isFraction_padded htext (by decide) h (Nat.mul_one nanos)⟩

/-- The fields of a time, the fraction with the seconds. -/
def fields (t : TimeOfDay) : List String :=
  [String.ofList (padded 2 (t.secs / 3600)), String.ofList (padded 2 (t.secs / 60 % 60)),
    String.ofList (padded 2 t.second ++ fractionText t.fraction)]

theorem text_eq (t : TimeOfDay) : t.text = ":".intercalate t.fields := by
  unfold text fields
  simp only [String.intercalate_cons_cons, String.intercalate_singleton, String.ofList_append,
    String.append_assoc]

@[simp]
theorem pieces_text (t : TimeOfDay) : pieces ':' t.text = t.fields := by
  have hseconds : Over (IsDigitOr ['.'])
      (String.ofList (padded 2 t.second ++ fractionText t.fraction)) := by
    rw [String.ofList_append]
    exact (over_padded _ _).append (over_fractionText List.mem_cons_self _)
  have hfields : ∀ s ∈ t.fields, Over (IsDigitOr ['.']) s := by
    simp only [fields, List.forall_mem_cons]
    exact ⟨over_padded _ _, over_padded _ _, hseconds, nofun⟩
  rw [text_eq]
  exact pieces_joined rfl nofun fun s hs => (hfields s hs).closed (by decide)

-- The second is 60 in a leap second only, and that one follows second 59.
theorem counts_of_fields (t : TimeOfDay) :
    3600 * (t.secs / 3600) + 60 * (t.secs / 60 % 60) + (t.second - (t.second - 59)) = t.secs ∧
      (t.second - 59) * nanosPerSecond + t.fraction = t.nanos := by
  have hvalid := t.valid.2
  unfold second fraction nanosPerSecond at *
  omega

@[simp]
theorem ofText?_text (t : TimeOfDay) : ofText? t.text = some t := by
  have hlt : t.fraction < nanosPerSecond := Nat.mod_lt _ (by decide)
  rcases exists_isFraction hlt with ⟨ds, hds, hmantissa, hscaled⟩
  have hsecond : ∀ c ∈ padded 2 t.second, c.isDigit = true := fun _ => isDigit_of_mem_padded
  have hparts := Number.parts_mantissa hsecond hds
    (show ∀ c ∈ ([] : List Char).head?, c.isDigit = false ∧ c ≠ '.' from nofun)
  rw [List.append_nil, ← hmantissa] at hparts
  rcases t.counts_of_fields with ⟨hsecs, hnanos⟩
  rw [ofText?, pieces_text]
  simp only [fields, String.toList_ofList, hparts, ofDigits_padded, hscaled, hsecs, hnanos]
  exact of?_eq_some t

end TimeOfDay

namespace Instant

/-- The instant that a literal is read as. -/
def ofText? (s : String) : Option Instant :=
  match pieces 'T' s with
  | [date, rest] =>
    match pieces 'Z' rest with
    | [time, _] => do
      let date ← Date.ofText? date
      let time ← TimeOfDay.ofText? time
      return ⟨date, time⟩
    | _ => none
  | _ => none

@[simp]
theorem ofText?_text (i : Instant) : ofText? i.text = some i := by
  have hdate : Closed ['T'] i.date.text := i.date.over_text.closed (by decide)
  have htime : Closed ['T'] i.time.text := i.time.over_text.closed (by decide)
  have htime' : Closed ['Z'] i.time.text := i.time.over_text.closed (by decide)
  have hpieces : pieces 'T' i.text = [i.date.text, i.time.text ++ "Z"] := by
    have hjoined : i.text = "T".intercalate [i.date.text, i.time.text ++ "Z"] := by
      rw [text, String.intercalate_cons_cons, String.intercalate_singleton, String.append_assoc]
    rw [hjoined]
    refine pieces_joined rfl nofun (List.forall_mem_cons.mpr ⟨hdate, ?_⟩)
    exact List.forall_mem_singleton.mpr (htime.append (by decide))
  have hpieces' : pieces 'Z' (i.time.text ++ "Z") = [i.time.text, ""] := by
    have hjoined : i.time.text ++ "Z" = "Z".intercalate [i.time.text, ""] := by
      rw [String.intercalate_cons_cons, String.intercalate_singleton, String.append_empty]
    rw [hjoined]
    refine pieces_joined rfl nofun (List.forall_mem_cons.mpr ⟨htime', ?_⟩)
    exact List.forall_mem_singleton.mpr closed_empty
  rw [ofText?, hpieces]
  simp only [hpieces', Date.ofText?_text, TimeOfDay.ofText?_text]
  rfl

end Instant

end OData
