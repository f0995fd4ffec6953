import OData.Unicode.Alphanumeric
import OData.Unicode.Case

/-!
# Words and Casing

Names are split into words and put together again in another style: in upper
camel case, where every word starts with a capital, or in snake case, where
lower-case words are joined by underscores.

A word never crosses a character that is neither a letter nor a digit. Inside a
run of letters and digits, case shows where words begin. A capital after a
lower-case letter begins a word, and in a run of capitals so does the last one
if a lower-case letter follows, as in `XMLHttp`. Digits have no case of their
own and keep that of what precedes them in the word.

The letter sigma has a second lower-case form, which is used at the end of a
word.

## Main definitions

* `letterRuns`: The runs of letters and digits.
* `splitRun`: The words of one run.
* `words`: The words of a name.
* `lowered`, `capitalized`: A word in lower case, and with a capital.
* `upperCamel`, `snake`: A name in the two styles.

## Theorems

* `flatten_splitRun`: Splitting a run loses no character.
* `flatten_words`: The words of a name hold its letters and digits.
* `ne_nil_of_mem_words`: No word is empty.
* `words_cases`: Where the first word begins, if there is one.
-/

namespace OData

namespace Text

/-- The case of a letter. -/
inductive LetterCase where
  | lower
  | upper
deriving DecidableEq

/-- The case of a character, if it has one. -/
def letterCase? (c : Char) : Option LetterCase :=
  if Unicode.isLowercase c then some .lower
  else if Unicode.isUppercase c then some .upper
  else none

/-- The text cut at every character that is neither a letter nor a digit. -/
def cutRuns : List Char → List (List Char)
  | [] => [[]]
  | c :: cs =>
    if Unicode.isAlphanumeric c then
      match cutRuns cs with
      | [] => [[c]]
      | r :: rs => (c :: r) :: rs
    else [] :: cutRuns cs

/-- The runs of letters and digits in a text. -/
def letterRuns (cs : List Char) : List (List Char) :=
  (cutRuns cs).filter fun r => !r.isEmpty

/-- The words of a run, given the case that the current word has had last and
    its characters so far, the latest first. -/
def splitRun (mode : Option LetterCase) (word : List Char) : List Char → List (List Char)
  | [] => [word.reverse]
  | [c] => [(c :: word).reverse]
  | c :: d :: rest =>
    let mode' := (letterCase? c).or mode
    if mode' = some .lower ∧ Unicode.isUppercase d then
      -- A capital after lower case begins a word.
      (c :: word).reverse :: splitRun none [] (d :: rest)
    else if mode = some .upper ∧ Unicode.isUppercase c ∧ Unicode.isLowercase d then
      -- So does the last of several capitals before lower case.
      word.reverse :: splitRun none [c] (d :: rest)
    else splitRun mode' (c :: word) (d :: rest)

/-- The words of a name. -/
def words (name : List Char) : List (List Char) :=
  (letterRuns name).flatMap (splitRun none [])

/-- A word in lower case. -/
def lowered : List Char → List Char
  | [] => []
  | [c] => if c = 'Σ' then ['ς'] else Unicode.toLowercase c
  | c :: cs => Unicode.toLowercase c ++ lowered cs

/-- A word with its first character in upper case and the others in lower
    case. -/
def capitalized : List Char → List Char
  | [] => []
  | c :: cs => Unicode.toUppercase c ++ lowered cs

/-- A name in upper camel case. -/
def upperCamel (name : List Char) : List Char :=
  (words name).flatMap capitalized

/-- A name in snake case. -/
def snake (name : List Char) : List Char :=
  ['_'].intercalate ((words name).map lowered)

theorem lowered_cons_cons (c d : Char) (cs : List Char) :
    lowered (c :: d :: cs) = Unicode.toLowercase c ++ lowered (d :: cs) := rfl

@[simp]
theorem flatten_splitRun (mode : Option LetterCase) (word cs : List Char) :
    (splitRun mode word cs).flatten = word.reverse ++ cs := by
  induction cs generalizing mode word with
  | nil => simp only [splitRun, List.flatten_cons, List.flatten_nil]
  | cons c cs ih =>
      cases cs with
      | nil =>
          simp only [splitRun, List.flatten_cons, List.flatten_nil, List.reverse_cons,
            List.append_nil]
      | cons d rest =>
          simp only [splitRun]
          split
          · simp only [List.flatten_cons, ih, List.reverse_cons, List.reverse_nil,
              List.nil_append, List.append_assoc, List.cons_append]
          · split
            · simp only [List.flatten_cons, ih, List.reverse_cons, List.reverse_nil,
                List.nil_append, List.cons_append]
            · simp only [ih, List.reverse_cons, List.append_assoc, List.cons_append,
                List.nil_append]

-- Cutting a text into runs loses no letter or digit.
@[simp]
theorem flatten_cutRuns (cs : List Char) :
    (cutRuns cs).flatten = cs.filter Unicode.isAlphanumeric := by
  induction cs with
  | nil => rfl
  | cons c cs ih =>
      rw [cutRuns]
      cases hc : Unicode.isAlphanumeric c with
      | true =>
          rw [if_pos rfl, List.filter_cons_of_pos hc, ← ih]
          cases cutRuns cs <;> rfl
      | false =>
          rw [if_neg Bool.false_ne_true, List.flatten_cons, List.nil_append, ih,
            List.filter_cons_of_neg (Bool.eq_false_iff.mp hc)]

/-- The words of a name hold its letters and digits, in order, and nothing
    else. -/
@[simp]
theorem flatten_words (name : List Char) :
    (words name).flatten = name.filter Unicode.isAlphanumeric := by
  have hsame : List.flatten ∘ splitRun none [] = id :=
    funext fun run => flatten_splitRun none [] run
  rw [words, List.flatMap_def, List.flatten_flatten, List.map_map, hsame, List.map_id, letterRuns,
    List.flatten_filter_not_isEmpty, flatten_cutRuns]

/-- The characters of a word are letters and digits of the name. -/
theorem mem_of_mem_words {name w : List Char} {c : Char} (hw : w ∈ words name) (hc : c ∈ w) :
    c ∈ name ∧ Unicode.isAlphanumeric c = true := by
  have hflatten : c ∈ (words name).flatten := List.mem_flatten.mpr ⟨w, hw, hc⟩
  rw [flatten_words] at hflatten
  exact List.mem_filter.mp hflatten

-- A case that the current word has had is that of one of its characters.
theorem ne_nil_of_mem_splitRun {mode : Option LetterCase} {word cs w : List Char}
    (hmode : mode ≠ none → word ≠ []) (hne : cs ≠ []) (h : w ∈ splitRun mode word cs) :
    w ≠ [] := by
  induction cs generalizing mode word with
  | nil => exact absurd rfl hne
  | cons c cs ih =>
      have hlast : (c :: word).reverse ≠ [] := by
        rw [List.reverse_cons]
        exact List.append_ne_nil_of_right_ne_nil _ (List.cons_ne_nil c [])
      cases cs with
      | nil =>
          rw [splitRun, List.mem_singleton] at h
          rw [h]
          exact hlast
      | cons d rest =>
          have hd := List.cons_ne_nil d rest
          simp only [splitRun] at h
          split at h
          · rcases List.mem_cons.mp h with rfl | h
            · exact hlast
            · exact ih (fun hnone => absurd rfl hnone) hd h
          · split at h
            next hupper =>
              rcases List.mem_cons.mp h with rfl | h
              · have hword := hmode (by rw [hupper.1]; exact nofun)
                exact mt List.reverse_eq_nil_iff.mp hword
              · exact ih (fun _ => List.cons_ne_nil c []) hd h
            next => exact ih (fun _ => List.cons_ne_nil c word) hd h

/-- No word is empty. -/
theorem ne_nil_of_mem_words {name w : List Char} (h : w ∈ words name) : w ≠ [] := by
  rcases List.mem_flatMap.mp h with ⟨run, hrun, hw⟩
  have hne := (List.mem_filter.mp hrun).2
  rw [Bool.not_eq_true', List.isEmpty_eq_false_iff] at hne
  exact ne_nil_of_mem_splitRun (fun hnone => absurd rfl hnone) hne hw

/-- The first word begins with the first letter or digit of the name, and
    without one there are no words. -/
theorem words_cases (name : List Char) :
    (words name = [] ∧ name.find? Unicode.isAlphanumeric = none) ∨
      ∃ c w ws, words name = (c :: w) :: ws ∧ name.find? Unicode.isAlphanumeric = some c := by
  have hhead : (words name).flatten.head? = name.find? Unicode.isAlphanumeric := by
    simp
  cases hwords : words name with
  | nil =>
      rw [hwords] at hhead
      exact Or.inl ⟨rfl, hhead.symm⟩
  | cons w ws =>
      cases w with
      | nil =>
          have hmem : [] ∈ words name := hwords ▸ List.mem_cons_self
          exact absurd rfl (ne_nil_of_mem_words hmem)
      | cons c w =>
          rw [hwords] at hhead
          exact Or.inr ⟨c, w, ws, rfl, hhead.symm⟩

end Text

end OData
