import Mathlib.Data.List.Basic
import Mathlib.Data.List.TakeWhile
import OData.Text.Words

/-!
# Camel Case of Snake Case

Upper camel case puts the words of a name side by side, so where one word ends
and the next begins must be seen from the letters. For names in snake case it
can be. Their words begin with a letter from `a` to `z` and go on with
lower-case letters and digits, so a word in upper camel case begins with a
capital and holds no other one. Every capital stands for an underscore, and two
names in snake case that are the same in upper camel case are the same.

The lower-case letters are those of all scripts. Cutting a name into words and
writing it in another case look at them through three tables, and what is
needed of these is that a lower-case letter is a letter, is not an upper-case
one as well, and has no lower-case form but itself. The last two say that runs
of characters have nothing in common. Either one run ends before the other
begins, or they take turns.

## Main definitions

* `Run.apart`: Two runs of characters have nothing in common.
* `IsSnakeWord`, `IsSnakeName`: Words and names in snake case.
* `parted`: Underscores put back in front of the capitals.

## Theorems

* `isAlphanumeric_of_isLowercase` and its like: What tables say about
  lower-case letters.
* `words_intercalate`: The words of a name in snake case.
* `parted_upperCamel`: From upper camel case back to snake case.
* `upperCamel_injective`: Upper camel case tells names in snake case apart.
-/

namespace OData

namespace Unicode

/-- All characters of the run are even, or all are odd. -/
def Run.alternates (r : Run) : Bool :=
  r.step == 2 || r.first == r.last

/-- One run ends before the other begins, or they take turns. -/
def Run.apart (r s : Run) : Bool :=
  r.last.blt s.first || s.last.blt r.first ||
    (r.alternates && s.alternates && (r.first + s.first) % 2 == 1)

variable {r s : Run} {n : Nat} {c : Char}

theorem Run.mod_two_eq (h : r.alternates = true) (hn : r.contains n = true) :
    n % 2 = r.first % 2 := by
  rw [contains_iff] at hn
  simp only [alternates, Bool.or_eq_true, beq_iff_eq] at h
  rcases h with hstep | hsingle
  · rw [hstep] at hn
    omega
  · have heq : n = r.first := by omega
    rw [heq]

theorem Run.not_contains_of_apart (h : r.apart s = true) (hn : r.contains n = true) :
    s.contains n = false := by
  rw [← Bool.not_eq_true]
  intro hn'
  simp only [apart, Bool.or_eq_true, Bool.and_eq_true, Nat.blt_eq, beq_iff_eq] at h
  have hr := (contains_iff r n).mp hn
  have hs := (contains_iff s n).mp hn'
  rcases h with (hlt | hlt) | ⟨⟨hr', hs'⟩, hodd⟩
  · omega
  · omega
  · have hleft := mod_two_eq hr' hn
    have hright := mod_two_eq hs' hn'
    omega

/-- A run lies in a range, ends included. -/
def Run.inRange (r : Run) (p : Nat × Nat) : Bool :=
  p.1.ble r.first && r.last.ble p.2

-- If nothing is left of a list when members that pass a test are taken off its
-- front, test by test, then every member passes one of the tests.
theorem exists_of_foldl_dropWhile {α β : Type} {p : β → α → Bool} {xs : List α} {ys : List β}
    (h : ys.foldl (fun xs y => xs.dropWhile (p y)) xs = []) : ∀ x ∈ xs, ∃ y ∈ ys, p y x = true := by
  induction ys generalizing xs with
  | nil =>
      intro x hx
      rw [List.foldl_nil] at h
      rw [h] at hx
      exact absurd hx List.not_mem_nil
  | cons y ys ih =>
      intro x hx
      rw [List.foldl_cons] at h
      rw [← List.takeWhile_append_dropWhile (p := p y) (l := xs), List.mem_append] at hx
      rcases hx with hx | hx
      · exact ⟨y, List.mem_cons_self, List.mem_takeWhile_imp hx⟩
      · rcases ih h x hx with ⟨z, hz, hxz⟩
        exact ⟨z, List.mem_cons_of_mem _ hz, hxz⟩

-- Both tables are in order, so the ranges are gone through only once.
theorem lowercaseRuns_inRange :
    ∀ r ∈ lowercaseRuns, ∃ p ∈ alphanumericRanges, r.inRange p = true :=
  exists_of_foldl_dropWhile (p := fun p (r : Run) => r.inRange p) (by decide +kernel)

-- The next two tables overlap with the first one, so every pair is tried.
theorem lowercaseRuns_apart_uppercaseRuns :
    ∀ r ∈ lowercaseRuns, ∀ s ∈ uppercaseRuns, r.apart s = true := by
  have hall : (lowercaseRuns.all fun r => uppercaseRuns.all r.apart) = true := by decide +kernel
  simpa only [List.all_eq_true] using hall

theorem lowercaseRuns_apart_toLowercaseRuns :
    ∀ r ∈ lowercaseRuns, ∀ p ∈ toLowercaseRuns, r.apart p.1 = true := by
  have hall : (lowercaseRuns.all fun r => toLowercaseRuns.all fun p => r.apart p.1) = true := by
    decide +kernel
  simpa only [List.all_eq_true] using hall

-- A lower-case letter is one of the first 128 characters or in the table.
theorem cases_of_isLowercase (h : isLowercase c = true) :
    (c.toNat < 128 ∧ c.isLower = true) ∨
      ¬ c.toNat < 128 ∧ ∃ r ∈ lowercaseRuns, r.contains c.toNat = true := by
  unfold isLowercase at h
  by_cases hascii : c.toNat < 128
  · rw [if_pos hascii] at h
    exact Or.inl ⟨hascii, h⟩
  · rw [if_neg hascii] at h
    exact Or.inr ⟨hascii, List.any_eq_true.mp h⟩

-- What has been tried on the first 128 characters holds of them all.
theorem forall_ascii {P : Char → Prop} (h : ∀ n < 128, P (Char.ofNat n)) (hc : c.toNat < 128) :
    P c := by
  have hself := h c.toNat hc
  rw [Char.ofNat_toNat] at hself
  exact hself

theorem ascii_settled (hc : c.toNat < 128) (h : c.isLower = true ∨ c.isDigit = true) :
    c.isAlphanum = true ∧ c.isUpper = false ∧ c.toLower = c :=
  forall_ascii (P := fun c => c.isLower = true ∨ c.isDigit = true →
    c.isAlphanum = true ∧ c.isUpper = false ∧ c.toLower = c) (by decide) hc h

theorem ascii_capital (hc : c.toNat < 128) (h : c.isLower = true) :
    c.toUpper.isUpper = true ∧ c.toUpper.toLower = c :=
  forall_ascii (P := fun c => c.isLower = true →
    c.toUpper.isUpper = true ∧ c.toUpper.toLower = c) (by decide) hc h

theorem isAlphanumeric_of_isLowercase (h : isLowercase c = true) : isAlphanumeric c = true := by
  rcases cases_of_isLowercase h with ⟨hascii, hlower⟩ | ⟨hascii, r, hr, hc⟩
  · rw [isAlphanumeric_of_ascii hascii]
    exact (ascii_settled hascii (Or.inl hlower)).1
  · rcases lowercaseRuns_inRange r hr with ⟨p, hp, hrange⟩
    simp only [Run.inRange, Bool.and_eq_true, Nat.ble_eq] at hrange
    rw [Run.contains_iff] at hc
    rw [isAlphanumeric, if_neg hascii, inRanges_iff]
    exact ⟨p, hp, by omega, by omega⟩

theorem isUppercase_of_isLowercase (h : isLowercase c = true) : isUppercase c = false := by
  rcases cases_of_isLowercase h with ⟨hascii, hlower⟩ | ⟨hascii, r, hr, hc⟩
  · rw [isUppercase_of_ascii hascii]
    exact (ascii_settled hascii (Or.inl hlower)).2.1
  · rw [isUppercase, if_neg hascii, List.any_eq_false]
    intro s hs
    rw [Run.not_contains_of_apart (lowercaseRuns_apart_uppercaseRuns r hr s hs) hc]
    exact Bool.false_ne_true

theorem toLowercase_of_isLowercase (h : isLowercase c = true) : toLowercase c = [c] := by
  rcases cases_of_isLowercase h with ⟨hascii, hlower⟩ | ⟨hascii, r, hr, hc⟩
  · rw [toLowercase_of_ascii hascii, (ascii_settled hascii (Or.inl hlower)).2.2]
  · have hrun : toLowercaseRuns.find? (fun p => p.1.contains c.toNat) = none := by
      rw [List.find?_eq_none]
      intro p hp
      rw [Run.not_contains_of_apart (lowercaseRuns_apart_toLowercaseRuns r hr p hp) hc]
      exact Bool.false_ne_true
    -- The only character whose lower-case form is longer is no lower-case letter.
    have hlong : toLowercaseTable.lookup c.toNat = none := by
      have hnot : ∀ r ∈ lowercaseRuns, r.contains 0x130 = false := by decide +kernel
      rw [List.lookup_eq_none_iff]
      intro p hp
      rw [List.mem_singleton.mp hp, bne_iff_ne]
      intro heq
      rw [heq, hnot r hr] at hc
      exact Bool.false_ne_true hc
    rw [toLowercase, if_neg hascii, mapped, hlong, hrun]

end Unicode

namespace Text

/-- A lower-case letter of any script or a digit. -/
def IsWordChar (c : Char) : Prop :=
  Unicode.isLowercase c = true ∨ c.isDigit = true

instance (c : Char) : Decidable (IsWordChar c) :=
  inferInstanceAs (Decidable (_ ∨ _))

/-- A word in snake case: a letter from `a` to `z`, and lower-case letters and
    digits after it. -/
def IsSnakeWord : List Char → Prop
  | [] => False
  | c :: cs => c.isLower = true ∧ ∀ d ∈ cs, IsWordChar d

-- Decided by a walk along the word, not by one over all characters there are.
instance : (w : List Char) → Decidable (IsSnakeWord w)
  | [] => inferInstanceAs (Decidable False)
  | c :: cs =>
    have : Decidable (∀ d ∈ cs, IsWordChar d) := List.decidableBAll IsWordChar cs
    inferInstanceAs (Decidable (c.isLower = true ∧ ∀ d ∈ cs, IsWordChar d))

/-- A name in snake case: words with single underscores between them. -/
def IsSnakeName (name : List Char) : Prop :=
  ∃ ws, ws ≠ [] ∧ (∀ w ∈ ws, IsSnakeWord w) ∧ ['_'].intercalate ws = name

variable {c : Char} {w name : List Char} {ws : List (List Char)}

/-- The letters from `a` to `z`, the capitals and the digits are ranges of the
    first 128 characters. -/
theorem toNat_lt_of_letter_or_digit (h : c.isLower = true ∨ c.isUpper = true ∨ c.isDigit = true) :
    c.toNat < 128 := by
  have hle : c ≤ 'z' := by
    rcases h with hlower | hupper | hdigit
    · exact of_decide_eq_true (Bool.and_eq_true_iff.mp hlower).2
    · have hrange : 'A' ≤ c ∧ c ≤ 'Z' := of_decide_eq_true hupper
      exact Char.le_trans hrange.2 (by decide)
    · have hnine : c ≤ '9' := of_decide_eq_true (Bool.and_eq_true_iff.mp hdigit).2
      exact Char.le_trans hnine (by decide)
  exact Nat.lt_of_le_of_lt hle (by decide)

namespace IsWordChar

theorem of_isLower (h : c.isLower = true) : IsWordChar c := by
  refine Or.inl ?_
  rw [Unicode.isLowercase_of_ascii (toNat_lt_of_letter_or_digit (.inl h))]
  exact h

-- What cutting and casing ask of a character, for all characters of words.
theorem settled (h : IsWordChar c) :
    Unicode.isAlphanumeric c = true ∧ Unicode.isUppercase c = false ∧
      Unicode.toLowercase c = [c] := by
  rcases h with hlower | hdigit
  · exact ⟨Unicode.isAlphanumeric_of_isLowercase hlower,
      Unicode.isUppercase_of_isLowercase hlower, Unicode.toLowercase_of_isLowercase hlower⟩
  · have hascii := toNat_lt_of_letter_or_digit (.inr (.inr hdigit))
    rcases Unicode.ascii_settled hascii (Or.inr hdigit) with ⟨halphanum, hupper, hlower⟩
    rw [Unicode.isAlphanumeric_of_ascii hascii, Unicode.isUppercase_of_ascii hascii,
      Unicode.toLowercase_of_ascii hascii, hlower]
    exact ⟨halphanum, hupper, rfl⟩

theorem isUpper_eq_false (h : IsWordChar c) : c.isUpper = false := by
  rw [← Bool.not_eq_true]
  intro hupper
  have hascii : c.toNat < 128 := toNat_lt_of_letter_or_digit (.inr (.inl hupper))
  have hnot := h.settled.2.1
  rw [Unicode.isUppercase_of_ascii hascii, hupper] at hnot
  exact Bool.noConfusion hnot

end IsWordChar

namespace IsSnakeWord

theorem isWordChar (h : IsSnakeWord w) : ∀ c ∈ w, IsWordChar c := by
  cases w with
  | nil => exact absurd h not_false
  | cons c cs => exact List.forall_mem_cons.mpr ⟨.of_isLower h.1, h.2⟩

theorem ne_nil (h : IsSnakeWord w) : w ≠ [] := by
  rintro rfl
  exact h

end IsSnakeWord

-- Letters and digits in front of an underscore are a run of their own.
theorem cutRuns_append (h : ∀ c ∈ w, Unicode.isAlphanumeric c = true) (cs : List Char) :
    cutRuns (w ++ '_' :: cs) = w :: cutRuns cs := by
  induction w with
  | nil => rfl
  | cons c w ih =>
      rw [List.forall_mem_cons] at h
      rw [List.cons_append, cutRuns, if_pos h.1, ih h.2]

theorem cutRuns_eq_singleton (h : ∀ c ∈ w, Unicode.isAlphanumeric c = true) :
    cutRuns w = [w] := by
  induction w with
  | nil => rfl
  | cons c w ih =>
      rw [List.forall_mem_cons] at h
      rw [cutRuns, if_pos h.1, ih h.2]

theorem cutRuns_intercalate (hne : ws ≠ [])
    (h : ∀ w ∈ ws, ∀ c ∈ w, Unicode.isAlphanumeric c = true) :
    cutRuns (['_'].intercalate ws) = ws := by
  induction ws with
  | nil => exact absurd rfl hne
  | cons w ws ih =>
      rw [List.forall_mem_cons] at h
      by_cases hws : ws = []
      · rw [hws, List.intercalate_singleton, cutRuns_eq_singleton h.1]
      · rw [List.intercalate_cons_of_ne_nil hws, List.append_assoc, List.singleton_append,
          cutRuns_append h.1, ih hws h.2]

-- Without upper-case letters a run is one word.
theorem splitRun_eq_singleton {mode : Option LetterCase} {word cs : List Char}
    (h : ∀ c ∈ cs, Unicode.isUppercase c = false) :
    splitRun mode word cs = [word.reverse ++ cs] := by
  induction cs generalizing mode word with
  | nil => rw [splitRun, List.append_nil]
  | cons c cs ih =>
      rw [List.forall_mem_cons] at h
      cases cs with
      | nil => rw [splitRun, List.reverse_cons]
      | cons d rest =>
          have hd := h.2 d List.mem_cons_self
          simp only [splitRun, h.1, hd, Bool.false_eq_true, and_false, false_and, if_false]
          rw [ih h.2, List.reverse_cons, List.append_assoc, List.singleton_append]

/-- The words of a name in snake case. -/
theorem words_intercalate (hne : ws ≠ []) (h : ∀ w ∈ ws, IsSnakeWord w) :
    words (['_'].intercalate ws) = ws := by
  have hruns : letterRuns (['_'].intercalate ws) = ws := by
    rw [letterRuns, cutRuns_intercalate hne fun w hw c hc => ((h w hw).isWordChar c hc).settled.1,
      List.filter_eq_self]
    intro w hw
    rw [Bool.not_eq_true', List.isEmpty_eq_false_iff]
    exact (h w hw).ne_nil
  have hwhole : ∀ w ∈ ws, splitRun none [] w = [w] := fun w hw =>
    splitRun_eq_singleton fun c hc => ((h w hw).isWordChar c hc).settled.2.1
  rw [words, hruns, List.flatMap_congr hwhole, List.flatMap_singleton']

-- The sigma has a form of its own at the end of a word.
theorem lowered_eq_map {f : Char → Char}
    (h : ∀ c ∈ w, c ≠ 'Σ' ∧ Unicode.toLowercase c = [f c]) : lowered w = w.map f := by
  induction w with
  | nil => rfl
  | cons c w ih =>
      rw [List.forall_mem_cons] at h
      rcases h with ⟨⟨hsigma, hlower⟩, hrest⟩
      cases w with
      | nil =>
          rw [lowered, if_neg hsigma, hlower]
          rfl
      | cons d rest =>
          rw [lowered_cons_cons, hlower, ih hrest]
          rfl

theorem lowered_eq_self (h : ∀ c ∈ w, IsWordChar c) : lowered w = w := by
  refine (lowered_eq_map (f := id) fun c hc => ⟨?_, (h c hc).settled.2.2⟩).trans (List.map_id w)
  -- That sigma is a capital.
  rintro rfl
  exact absurd (h 'Σ' hc) (by decide)

theorem capitalized_cons {c : Char} {cs : List Char} (h : IsSnakeWord (c :: cs)) :
    capitalized (c :: cs) = c.toUpper :: cs := by
  have hascii : c.toNat < 128 := toNat_lt_of_letter_or_digit (.inl h.1)
  rw [capitalized, Unicode.toUppercase_of_ascii hascii, lowered_eq_self h.2, List.singleton_append]

/-- A text with an underscore in front of every capital, and the capital in
    lower case. -/
def parted (cs : List Char) : List Char :=
  cs.flatMap fun c => if c.isUpper then ['_', c.toLower] else [c]

theorem parted_of_isWordChar {cs : List Char} (h : ∀ c ∈ cs, IsWordChar c) : parted cs = cs := by
  have hsame : ∀ c ∈ cs, (if c.isUpper then ['_', c.toLower] else [c]) = [c] := by
    intro c hc
    rw [(h c hc).isUpper_eq_false, if_neg Bool.false_ne_true]
  rw [parted, List.flatMap_congr hsame, List.flatMap_singleton']

-- The capital of a word stands for the underscore in front of it.
theorem parted_capitalized (h : IsSnakeWord w) : parted (capitalized w) = '_' :: w := by
  cases w with
  | nil => exact absurd h not_false
  | cons c cs =>
      have hascii : c.toNat < 128 := toNat_lt_of_letter_or_digit (.inl h.1)
      rcases Unicode.ascii_capital hascii h.1 with ⟨hupper, hlower⟩
      have hrest : parted cs = cs := parted_of_isWordChar h.2
      rw [parted] at hrest ⊢
      rw [capitalized_cons h, List.flatMap_cons, if_pos hupper, hlower, hrest, List.cons_append,
        List.singleton_append]

-- Words with an underscore in front of each are a name with one in front.
theorem flatMap_cons_eq_intercalate (hne : ws ≠ []) :
    ws.flatMap ('_' :: ·) = '_' :: ['_'].intercalate ws := by
  induction ws with
  | nil => exact absurd rfl hne
  | cons w ws ih =>
      rw [List.flatMap_cons]
      by_cases hws : ws = []
      · rw [hws, List.flatMap_nil, List.append_nil, List.intercalate_singleton]
      · rw [ih hws, List.intercalate_cons_of_ne_nil hws, List.cons_append, List.append_assoc,
          List.singleton_append]

/-- A name in snake case is found again in upper camel case. -/
theorem parted_upperCamel (h : IsSnakeName name) : parted (upperCamel name) = '_' :: name := by
  rcases h with ⟨ws, hne, hws, rfl⟩
  have hparted : ∀ w ∈ ws, parted (capitalized w) = '_' :: w := fun w hw =>
    parted_capitalized (hws w hw)
  rw [upperCamel, words_intercalate hne hws]
  unfold parted at hparted ⊢
  rw [List.flatMap_assoc, List.flatMap_congr hparted, flatMap_cons_eq_intercalate hne]

/-- Upper camel case tells names in snake case apart. -/
theorem upperCamel_injective {name' : List Char} (h : IsSnakeName name) (h' : IsSnakeName name')
    (heq : upperCamel name = upperCamel name') : name = name' := by
  have hparted := congrArg parted heq
  rw [parted_upperCamel h, parted_upperCamel h', List.cons.injEq] at hparted
  exact hparted.2

end Text

end OData
