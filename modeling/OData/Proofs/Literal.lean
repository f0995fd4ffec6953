import OData.Predicate
import OData.Proofs.Numeral
import OData.Proofs.Scan

/-!
# Literals as Words

Every literal is one word to a quote-aware scan. Numbers, dates and the like
are made of digits, the letters of hexadecimal digits and a few marks, none of
which means anything to a scan. Strings may hold anything, but they hold it
between quotes.

So nothing that is put into a literal can end it, open or close a parenthesis,
or be mistaken for a blank, a comma, a semicolon or an ampersand of the text
around it.

## Main definitions

* `IsLiteralChar`: The characters of numbers, dates and the like.
* `IsBare`: A text made of these characters.
* `IsDigitOr`: Digits and certain marks, for one kind of literal alone.
* `Uuid.groups`: The groups of digits in an identifier.

## Theorems

* `Number.Spells.isDigitOr`: Numbers are made of digits and their marks.
* `Value.text_cases`: A literal is a word, bare or a string.
* `Value.closed_text`: A literal is closed, with every separator a stop.
-/

namespace OData

open Text

/-- The characters that make up numbers, identifiers, dates and times. -/
def IsLiteralChar (c : Char) : Prop :=
  c.isDigit = true ∨
    c ∈ ['a', 'b', 'c', 'd', 'e', 'f', 'E', 'T', 'Z', '-', '+', '.', ':']

instance (c : Char) : Decidable (IsLiteralChar c) :=
  inferInstanceAs (Decidable (_ ∨ _))

/-- A text made of the characters of literals. -/
abbrev IsBare (s : String) : Prop :=
  Over IsLiteralChar s

/-- Digits and certain marks. Every kind of literal has its own. -/
def IsDigitOr (marks : List Char) (c : Char) : Prop :=
  c.isDigit = true ∨ c ∈ marks

instance (marks : List Char) (c : Char) : Decidable (IsDigitOr marks c) :=
  inferInstanceAs (Decidable (_ ∨ _))

section

variable {marks : List Char}

theorem Text.Over.isBare {s : String} (h : Over (IsDigitOr marks) s)
    (hmarks : marks.all (fun c => IsLiteralChar c) = true) : IsBare s :=
  h.mono fun c hc => hc.elim Or.inl fun hm => of_decide_eq_true (List.all_eq_true.mp hmarks c hm)

theorem Text.Over.closed {stops : List Char} {s : String} (h : Over (IsDigitOr marks) s)
    (hstops : (quote :: '(' :: ')' :: stops).all (fun c => ¬ IsDigitOr marks c) = true) :
    Closed stops s :=
  closed_of_avoids (h.avoids hstops)

theorem over_ofList {p : Char → Prop} {cs : List Char} (h : ∀ c ∈ cs, p c) :
    Over p (String.ofList cs) := by
  intro c hc
  rw [String.toList_ofList] at hc
  exact h c hc

theorem over_padded (width n : Nat) : Over (IsDigitOr marks) (String.ofList (padded width n)) :=
  over_ofList fun _ hc => Or.inl (isDigit_of_mem_padded hc)

theorem over_decimal (n : Nat) : Over (IsDigitOr marks) (decimal n) :=
  over_ofList fun _ hc => Or.inl (isDigit_of_mem_digits hc)

end

theorem isBare_decimal (n : Nat) : IsBare (decimal n) := by
  have hdigits : Over (IsDigitOr []) (decimal n) := over_decimal n
  exact hdigits.isBare rfl

namespace Number

/-- The marks in numbers. -/
abbrev marks : List Char := ['-', '+', '.', 'e', 'E']

theorem over_signed (n : Int) : Over (IsDigitOr marks) (signed n) := by
  refine Over.append ?_ (over_decimal n.natAbs)
  split <;> decide

theorem IsExponent.isDigitOr {cs : List Char} {n : Int} (h : IsExponent cs n) :
    ∀ c ∈ cs, IsDigitOr marks c := by
  have hmark : Over (IsDigitOr marks) "e+E" := by decide
  cases h with
  | none => nofun
  | zeros n =>
      simp only [List.forall_mem_cons]
      exact ⟨hmark _ (by decide), hmark _ (by decide),
        fun _ hc => Or.inl (isDigit_of_mem_digits hc)⟩
  | power n => exact List.forall_mem_cons.mpr ⟨hmark _ (by decide), over_signed n⟩

/-- Whatever the layout, only marks are added to the digits. -/
theorem Spells.isDigitOr {cs : List Char} {q : ℚ} (h : Spells cs q) :
    ∀ c ∈ cs, IsDigitOr marks c := by
  rcases h with ⟨-, hwhole, hfraction, hexponent⟩
  rename_i whole fraction exponent n
  have hmantissa : ∀ c ∈ mantissa whole fraction, IsDigitOr marks c := by
    unfold mantissa
    split
    · exact fun c hc => Or.inl (hwhole c hc)
    · simp only [List.forall_mem_append, List.forall_mem_cons]
      exact ⟨fun c hc => Or.inl (hwhole c hc), Or.inr (by decide),
        fun c hc => Or.inl (hfraction c hc)⟩
  exact List.forall_mem_append.mpr ⟨hmantissa, hexponent.isDigitOr⟩

theorem over_text (x : Number) : Over (IsDigitOr marks) x.text := by
  unfold text
  split
  · decide
  · exact Over.append (by split <;> decide) (over_ofList x.spells_abs.isDigitOr)

end Number

namespace Uuid

/-- The letters among the digits. -/
abbrev letters : List Char := ['a', 'b', 'c', 'd', 'e', 'f']

/-- The marks in identifiers. -/
abbrev marks : List Char := '-' :: letters

/-- The five groups of digits in a literal. -/
def groups (u : Uuid) : List String :=
  [(0, 8), (8, 4), (12, 4), (16, 4), (20, 12)].map fun (start, count) =>
    String.ofList (((u.digits.drop start).take count).map hexDigit)

theorem text_eq (u : Uuid) : u.text = "-".intercalate u.groups := rfl

theorem over_groups (u : Uuid) : ∀ t ∈ u.groups, Over (IsDigitOr letters) t := by
  have hdigit (d : Fin 16) : IsDigitOr letters (hexDigit d) := by
    revert d
    decide
  intro t ht
  rcases List.mem_map.mp ht with ⟨⟨start, count⟩, -, rfl⟩
  refine over_ofList fun c hc => ?_
  rcases List.mem_map.mp hc with ⟨d, -, rfl⟩
  exact hdigit d

theorem over_text (u : Uuid) : Over (IsDigitOr marks) u.text := by
  rw [text_eq]
  refine Over.intercalate (by decide) fun t ht => ?_
  exact (u.over_groups t ht).mono fun _ hc => hc.imp_right (List.mem_cons_of_mem _)

end Uuid

namespace Date

/-- The marks in dates. -/
abbrev marks : List Char := ['-', '+']

theorem over_yearText (year : Int) : Over (IsDigitOr marks) (yearText year) := by
  unfold yearText
  split
  · exact over_padded _ _
  · exact Over.append (by split <;> decide) (over_padded _ _)

theorem over_text (d : Date) : Over (IsDigitOr marks) d.text := by
  refine Over.intercalate (by decide) fun p hp => ?_
  simp only [List.mem_cons, List.not_mem_nil, or_false] at hp
  rcases hp with rfl | rfl | rfl
  · exact over_yearText _
  · exact over_padded _ _
  · exact over_padded _ _

end Date

namespace TimeOfDay

/-- The marks in times. -/
abbrev marks : List Char := [':', '.']

theorem over_fractionText {ms : List Char} (hms : '.' ∈ ms) (nanos : Nat) :
    Over (IsDigitOr ms) (String.ofList (fractionText nanos)) := by
  have hpoint (width n : Nat) : Over (IsDigitOr ms) (String.ofList ('.' :: padded width n)) := by
    refine over_ofList fun c hc => ?_
    rcases List.mem_cons.mp hc with rfl | hc
    · exact Or.inr hms
    · exact Or.inl (isDigit_of_mem_padded hc)
  unfold fractionText
  split
  · exact over_ofList nofun
  · split
    · exact hpoint _ _
    · split <;> exact hpoint _ _

theorem over_text (t : TimeOfDay) : Over (IsDigitOr marks) t.text := by
  have hfraction := over_fractionText (by decide : '.' ∈ marks) t.fraction
  refine Over.append (Over.intercalate (by decide) fun p hp => ?_) hfraction
  simp only [List.mem_cons, List.not_mem_nil, or_false] at hp
  rcases hp with rfl | rfl | rfl <;> exact over_padded _ _

end TimeOfDay

theorem Instant.isBare_text (i : Instant) : IsBare i.text := by
  have hdate := i.date.over_text.isBare (by decide)
  have htime := i.time.over_text.isBare (by decide)
  have hT : IsBare "T" := by decide
  have hZ : IsBare "Z" := by decide
  exact ((hdate.append hT).append htime).append hZ

namespace Value

/-- The literals that are words of letters. -/
abbrev constants : List String := ["null", "true", "false"]

/-- A literal is a word, made of the characters of bare literals, or a string
    between quotes. -/
theorem text_cases (v : Value) : v.text ∈ constants ∨ IsBare v.text ∨ ∃ s, v.text = quoted s := by
  cases v with
  | null => exact Or.inl (by decide : "null" ∈ constants)
  | bool b => exact Or.inl (by cases b <;> decide)
  | number n => exact Or.inr (Or.inl (n.over_text.isBare (by decide)))
  | uuid u => exact Or.inr (Or.inl (u.over_text.isBare (by decide)))
  | dateTime i => exact Or.inr (Or.inl i.isBare_text)
  | date d => exact Or.inr (Or.inl (d.over_text.isBare (by decide)))
  | time t => exact Or.inr (Or.inl (t.over_text.isBare (by decide)))
  | string s => exact Or.inr (Or.inr ⟨s, rfl⟩)

/-- A literal is closed, with every separator a stop. -/
theorem closed_text (v : Value) : Closed [' ', ',', ';', '&'] v.text := by
  rcases v.text_cases with hword | hbare | ⟨s, hs⟩
  · have hall : ∀ w ∈ constants, Closed [' ', ',', ';', '&'] w := by decide
    exact hall _ hword
  · -- No character of a bare literal means anything to a scan.
    exact closed_of_avoids (hbare.avoids (by decide))
  · rw [hs]
    exact closed_quoted (by decide) s

end Value

end OData
