import Mathlib.Data.List.Dedup
import Mathlib.Data.List.Sort
import OData.Proofs.Casing
import OData.Unicode.Identifier

/-!
# Identifiers in Another Case

A name in another case is made of the images of its characters, so it is an
identifier only if the images are what identifiers are made of. They are: what
continues an identifier continues one in upper case and in lower case too.

The images are listed by tables of runs, which move a run of characters over a
distance. Most runs are moved into a range of letters, and none of these letters
is left out of identifiers. The few others are looked at one by one. The dotless
`ı`, the long `ſ` and the sign for kelvin have images among the first 128
characters. A run of Greek letters has images with gaps between them. And
letters in circles are moved to letters in circles, but identifiers are made of
neither.

## Main definitions

* `IsNamePart`: Characters that continue identifiers, without the underscore.
* `movedRuns`: The runs that the runs of a table are moved to.
* `oddUppercase`, `oddLowercase`: The runs that are looked at one by one.

## Theorems

* `isIdentifierContinue_of_isIdentifierStart`: What starts an identifier
  continues one.
* `isNamePart_of_movedRuns`: Images that a table lists as runs.
* `isNamePart_of_mem_toUppercase`, `isNamePart_of_mem_toLowercase`: Identifiers
  are made of the same characters in the other case.
-/

namespace OData

namespace Unicode

/-- A character that continues an identifier, and is not the underscore. -/
def IsNamePart (c : Char) : Prop :=
  isIdentifierContinue c = true ∧ c ≠ '_'

instance (c : Char) : Decidable (IsNamePart c) :=
  inferInstanceAs (Decidable (_ ∧ _))

/-- The run that is reached over a distance. -/
def Run.moved (r : Run) (distance : Int) : Run where
  first := (r.first + distance).toNat
  last := (r.last + distance).toNat
  step := r.step

/-- A run ends before a range begins, or begins after its end. -/
def Run.outside (r : Run) (p : Nat × Nat) : Bool :=
  r.last.blt p.1 || p.2.blt r.first

/-- The runs that the runs of a table are moved to, apart from the odd ones, in
    order. -/
def movedRuns (runs odd : List (Run × Int)) : List Run :=
  ((runs.filter (· ∉ odd)).map fun p => p.1.moved p.2).insertionSort fun r s => r.first ≤ s.first

/-- The runs whose images in upper case are looked at one by one. -/
def oddUppercase : List (Run × Int) :=
  [(⟨0x131, 0x131, 1⟩, -232), (⟨0x17f, 0x17f, 1⟩, -300), (⟨0x1f51, 0x1f57, 2⟩, 8),
   (⟨0x24d0, 0x24e9, 1⟩, -26)]

/-- The runs whose images in lower case are looked at one by one. -/
def oddLowercase : List (Run × Int) :=
  [(⟨0x212a, 0x212a, 1⟩, -8383), (⟨0x24b6, 0x24cf, 1⟩, 26)]

variable {c d : Char} {n : Nat} {r : Run} {runs odd : List (Run × Int)} {p : Run × Int}
  {table : List (Nat × List Nat)}

theorem Run.moved_bounds (distance : Int) (h : r.contains n = true) :
    (r.moved distance).first ≤ (n + distance).toNat ∧
      (n + distance).toNat ≤ (r.moved distance).last := by
  rw [contains_iff] at h
  constructor
  · exact Int.toNat_le_toNat (by omega)
  · exact Int.toNat_le_toNat (by omega)

-- Every character that is left out in the middle is left out at the start.
theorem missingContinues_inRange :
    ∀ r ∈ missingContinues, ∃ p ∈ missingStarts, (p.1.ble r.1 && r.2.ble p.2) = true :=
  exists_of_foldl_dropWhile (p := fun (p r : Nat × Nat) => p.1.ble r.1 && r.2.ble p.2)
    (by decide +kernel)

/-- What starts an identifier continues one as well. -/
theorem isIdentifierContinue_of_isIdentifierStart (h : isIdentifierStart c = true) :
    isIdentifierContinue c = true := by
  by_cases hascii : c.toNat < 128
  · rw [isIdentifierStart_of_ascii hascii] at h
    rw [isIdentifierContinue_of_ascii hascii, Char.isAlphanum, h]
    rfl
  · simp only [isIdentifierStart, isIdentifierContinue, if_neg hascii, Bool.or_eq_true,
      Bool.and_eq_true, Bool.not_eq_true'] at h ⊢
    rcases h with ⟨hletter, hstart⟩ | hextra
    · refine Or.inl ⟨hletter, ?_⟩
      rw [← Bool.not_eq_true, inRanges_iff] at hstart ⊢
      rintro ⟨q, hq, hn⟩
      rcases missingContinues_inRange q hq with ⟨p, hp, hrange⟩
      rw [Bool.and_eq_true, Nat.ble_eq, Nat.ble_eq] at hrange
      exact hstart ⟨p, hp, by omega, by omega⟩
    · have hsub : extraStarts ⊆ extraContinues := by decide +kernel
      rcases (inRanges_iff _ _).mp hextra with ⟨p, hp, hn⟩
      exact Or.inr ((inRanges_iff _ _).mpr ⟨p, hsub hp, hn⟩)

theorem isNamePart_of_ascii (h : IsNamePart c) (hc : c.toNat < 128) :
    (IsNamePart c.toUpper ∧ c.toUpper.isLower = false) ∧ IsNamePart c.toLower :=
  forall_ascii (P := fun c => IsNamePart c →
    (IsNamePart c.toUpper ∧ c.toUpper.isLower = false) ∧ IsNamePart c.toLower)
    (by decide +kernel) hc h

-- The underscore and the letters from `a` to `z` are among the first 128.
theorem isNamePart_of_not_ascii (h : isIdentifierContinue c = true) (hc : ¬ c.toNat < 128) :
    IsNamePart c ∧ c.isLower = false := by
  refine ⟨⟨h, ?_⟩, ?_⟩
  · rintro rfl
    exact hc (by decide)
  · rw [← Bool.not_eq_true]
    exact fun hlower => hc (Text.toNat_lt_of_letter_or_digit (.inl hlower))

-- Ranges of letters hold no code points that are kept for other uses.
theorem alphanumericRanges_valid : ∀ q ∈ alphanumericRanges,
    128 ≤ q.1 ∧ (q.2 < 0xd800 ∨ 0xe000 ≤ q.1 ∧ q.2 < 0x110000) := by
  decide +kernel

theorem isNamePart_of_inRange {q : Nat × Nat} (hq : q ∈ alphanumericRanges)
    (hn : q.1 ≤ n ∧ n ≤ q.2) (hmissing : inRanges missingContinues n = false) :
    IsNamePart (Char.ofNat n) ∧ (Char.ofNat n).isLower = false := by
  have hvalid := alphanumericRanges_valid q hq
  have hsame : (Char.ofNat n).toNat = n := by
    have hn : n.isValidChar := by
      unfold Nat.isValidChar
      omega
    rw [Char.ofNat, dif_pos hn]
    rfl
  have hascii : ¬ (Char.ofNat n).toNat < 128 := by omega
  have hletter : isAlphanumeric (Char.ofNat n) = true := by
    rw [isAlphanumeric, if_neg hascii, hsame, inRanges_iff]
    exact ⟨q, hq, hn⟩
  refine isNamePart_of_not_ascii ?_ hascii
  rw [isIdentifierContinue, if_neg hascii, hletter, hsame, hmissing]
  rfl

/-- The images of a run are letters of identifiers if the run is moved into a
    range of letters, and past all that are left out. -/
theorem isNamePart_of_movedRuns
    (hin : alphanumericRanges.foldl (fun rs q => rs.dropWhile fun r => r.inRange q)
      (movedRuns runs odd) = [])
    (hout : ((movedRuns runs odd).all fun r => missingContinues.all r.outside) = true)
    (hp : p ∈ runs) (hodd : p ∉ odd) (h : p.1.contains n = true) :
    IsNamePart (Char.ofNat (n + p.2).toNat) ∧ (Char.ofNat (n + p.2).toNat).isLower = false := by
  have hbounds := Run.moved_bounds p.2 h
  have hmoved : p.1.moved p.2 ∈ movedRuns runs odd :=
    (List.mem_insertionSort _).mpr
      (List.mem_map_of_mem (List.mem_filter.mpr ⟨hp, decide_eq_true hodd⟩))
  rcases exists_of_foldl_dropWhile (p := fun q (r : Run) => r.inRange q) hin _ hmoved with
    ⟨q, hq, hrange⟩
  rw [Run.inRange, Bool.and_eq_true, Nat.ble_eq, Nat.ble_eq] at hrange
  refine isNamePart_of_inRange hq ⟨by omega, by omega⟩ ?_
  rw [← Bool.not_eq_true, inRanges_iff]
  rintro ⟨q', hq', hn⟩
  have houtside := List.all_eq_true.mp (List.all_eq_true.mp hout _ hmoved) q' hq'
  rw [Run.outside, Bool.or_eq_true, Nat.blt_eq, Nat.blt_eq] at houtside
  omega

-- Letters in circles are left out of identifiers, in both cases.
theorem not_isNamePart_of_circled (h : 0x24b6 ≤ c.toNat ∧ c.toNat ≤ 0x24e9) : ¬ IsNamePart c := by
  have houtside : extraContinues.all (Run.outside ⟨0x24b6, 0x24e9, 1⟩) = true := by
    decide +kernel
  have hnot : inRanges extraContinues c.toNat = false := by
    rw [← Bool.not_eq_true, inRanges_iff]
    rintro ⟨q, hq, hn⟩
    have hq := List.all_eq_true.mp houtside q hq
    simp only [Run.outside, Bool.or_eq_true, Nat.blt_eq] at hq
    omega
  have hmissing : inRanges missingContinues c.toNat = true :=
    (inRanges_iff _ _).mpr ⟨(0x24b6, 0x24ff), by decide +kernel, h.1, by omega⟩
  have hascii : ¬ c.toNat < 128 := by omega
  rintro ⟨hcontinue, _⟩
  rw [isIdentifierContinue, if_neg hascii, hmissing, hnot, Bool.not_true, Bool.and_false]
    at hcontinue
  exact Bool.false_ne_true hcontinue

theorem isNamePart_oddUppercase (hp : p ∈ oddUppercase) (h : p.1.contains c.toNat = true)
    (hc : IsNamePart c) : IsNamePart (Char.ofNat (c.toNat + p.2).toNat) ∧
      (Char.ofNat (c.toNat + p.2).toNat).isLower = false := by
  simp only [oddUppercase, List.mem_cons, List.not_mem_nil, or_false] at hp
  rcases hp with rfl | rfl | rfl | rfl <;> simp only [Run.contains_iff] at h
  · have hn : c.toNat = 0x131 := by omega
    rw [hn]
    decide +kernel
  · have hn : c.toNat = 0x17f := by omega
    rw [hn]
    decide +kernel
  · have hn : c.toNat ∈ [0x1f51, 0x1f53, 0x1f55, 0x1f57] := by
      simp only [List.mem_cons, List.not_mem_nil, or_false]
      omega
    have himages : ∀ n ∈ [0x1f51, 0x1f53, 0x1f55, 0x1f57],
        IsNamePart (Char.ofNat ((n : Nat) + (8 : Int)).toNat) ∧
          (Char.ofNat ((n : Nat) + (8 : Int)).toNat).isLower = false := by
      decide +kernel
    exact himages _ hn
  · exact absurd hc (not_isNamePart_of_circled ⟨by omega, by omega⟩)

theorem isNamePart_oddLowercase (hp : p ∈ oddLowercase) (h : p.1.contains c.toNat = true)
    (hc : IsNamePart c) : IsNamePart (Char.ofNat (c.toNat + p.2).toNat) := by
  simp only [oddLowercase, List.mem_cons, List.not_mem_nil, or_false] at hp
  rcases hp with rfl | rfl <;> simp only [Run.contains_iff] at h
  · have hn : c.toNat = 0x212a := by omega
    rw [hn]
    decide +kernel
  · exact absurd hc (not_isNamePart_of_circled ⟨by omega, by omega⟩)

-- An image is in the table of longer images, in a run, or the character itself.
theorem forall_mem_mapped {P : Char → Prop}
    (htable : ∀ n ∈ (table.flatMap Prod.snd).dedup, P (Char.ofNat n))
    (hruns : ∀ p ∈ runs, p.1.contains c.toNat = true → P (Char.ofNat (c.toNat + p.2).toNat))
    (hself : P c) : ∀ d ∈ mapped runs table c, P d := by
  intro d hd
  unfold mapped at hd
  split at hd
  next image hlookup =>
    rcases List.mem_map.mp hd with ⟨n, hn, rfl⟩
    rcases List.lookup_eq_some_iff.mp hlookup with ⟨before, after, rfl, _⟩
    refine htable n (List.mem_dedup.mpr (List.mem_flatMap.mpr ⟨(c.toNat, image), ?_, hn⟩))
    exact List.mem_append_right _ List.mem_cons_self
  next =>
    split at hd
    next r distance hfind =>
      rw [List.mem_singleton.mp hd]
      have hr := List.find?_some hfind
      exact hruns _ (List.mem_of_find?_eq_some hfind) hr
    next =>
      rw [List.mem_singleton.mp hd]
      exact hself

/-- What continues an identifier continues one in upper case, and is not in
    lower case then. -/
theorem isNamePart_of_mem_toUppercase (hc : IsNamePart c) (hd : d ∈ toUppercase c) :
    IsNamePart d ∧ d.isLower = false := by
  by_cases hascii : c.toNat < 128
  · rw [toUppercase_of_ascii hascii, List.mem_singleton] at hd
    rw [hd]
    exact (isNamePart_of_ascii hc hascii).1
  · rw [toUppercase, if_neg hascii] at hd
    refine forall_mem_mapped (P := fun d => IsNamePart d ∧ d.isLower = false)
      (by decide +kernel) (fun p hp h => ?_) (isNamePart_of_not_ascii hc.1 hascii) d hd
    by_cases hodd : p ∈ oddUppercase
    · exact isNamePart_oddUppercase hodd h hc
    · exact isNamePart_of_movedRuns (by decide +kernel) (by decide +kernel) hp hodd h

/-- What continues an identifier continues one in lower case. -/
theorem isNamePart_of_mem_toLowercase (hc : IsNamePart c) (hd : d ∈ toLowercase c) :
    IsNamePart d := by
  by_cases hascii : c.toNat < 128
  · rw [toLowercase_of_ascii hascii, List.mem_singleton] at hd
    rw [hd]
    exact (isNamePart_of_ascii hc hascii).2
  · rw [toLowercase, if_neg hascii] at hd
    refine forall_mem_mapped (by decide +kernel) (fun p hp h => ?_) hc d hd
    by_cases hodd : p ∈ oddLowercase
    · exact isNamePart_oddLowercase hodd h hc
    · exact (isNamePart_of_movedRuns (by decide +kernel) (by decide +kernel) hp hodd h).1

theorem mapped_ne_nil (htable : ∀ p ∈ table, p.2 ≠ []) : mapped runs table c ≠ [] := by
  unfold mapped
  split
  next image hlookup =>
    rcases List.lookup_eq_some_iff.mp hlookup with ⟨before, after, rfl, _⟩
    exact mt List.map_eq_nil_iff.mp (htable _ (List.mem_append_right _ List.mem_cons_self))
  next =>
    split
    · exact List.cons_ne_nil _ _
    · exact List.cons_ne_nil _ _

theorem toUppercase_ne_nil (c : Char) : toUppercase c ≠ [] := by
  unfold toUppercase
  split
  · exact List.cons_ne_nil _ _
  · exact mapped_ne_nil (by decide +kernel)

theorem toLowercase_ne_nil (c : Char) : toLowercase c ≠ [] := by
  unfold toLowercase
  split
  · exact List.cons_ne_nil _ _
  · exact mapped_ne_nil (by decide +kernel)

end Unicode

end OData
