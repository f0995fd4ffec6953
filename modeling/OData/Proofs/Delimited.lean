import Mathlib.Data.List.Forall2
import OData.Proofs.Denotation
import OData.Proofs.Precedence

/-!
# Predicates Delimit Themselves

The text of a predicate on a path without delimiters can be taken apart again,
whatever its literals hold. Read from the left by a scan that knows quotes and
parentheses, a comparison is three words and so is a test for membership, while
a call is one. The middle word, or what stands in front of the first
parenthesis, says what is asked, and commas in the open part the members of a
list or the arguments of a call.

Only the empty list needs care. Nothing stands between its parentheses, and as
no literal is empty, nothing else can stand there.

So predicates with one text are on one path, ask the same, and have as many
literals, each equal to its counterpart.

## Main definitions

* `Operator`: What a predicate asks of its field.
* `Parts`: The path, the operator and the literals of a predicate.
* `Text.entries`: The entries of a list.
* `Parts.ofText?`: The parts that are found in a text.
* `Parts.text`: The text of a predicate of these parts.

## Theorems

* `Value.text_ne_empty`: A literal is never empty.
* `Text.entries_intercalate`: The entries of a joined list.
* `Parts.ofText?_text`: The parts of a predicate are found in its text.
* `Predicate.text_parts`: Nothing but the parts goes into the text.
* `Predicate.text_eq_iff`: Predicates with one text have the same parts.
* `predicates_delimit_themselves`: And so do their literals denote the same.
-/

namespace OData

open Text Reading

/-- What a predicate asks of its field. -/
inductive Operator where
  | compare (op : Comparison)
  | isIn
  | call (function : TextFunction)
deriving DecidableEq

/-- A predicate taken apart, with its literals as they are written. -/
structure Parts where
  path : String
  operator : Operator
  literals : List String
deriving DecidableEq

namespace Predicate

/-- The characters that a path is parted from the rest by. -/
abbrev delimiters : List Char := [quote, '(', ')', ' ', ',']

/-- What the predicate asks. -/
def operator : Predicate → Operator
  | compare _ op _ => .compare op
  | isNull _ => .compare .eq
  | isNotNull _ => .compare .ne
  | isIn _ _ => .isIn
  | call function _ _ => .call function

/-- The literals of the predicate, in order. -/
def literals : Predicate → List Value
  | compare _ _ value => [value]
  | isNull _ => [.null]
  | isNotNull _ => [.null]
  | isIn _ values => values
  | call _ _ text => [.string text]

/-- The parts that the predicate was made of. -/
def parts (p : Predicate) : Parts :=
  ⟨p.field.pathText, p.operator, p.literals.map Value.text⟩

end Predicate

/-- The comparison that a word stands for. -/
def Comparison.ofKeyword? : String → Option Comparison
  | "eq" => some eq
  | "ne" => some ne
  | "gt" => some gt
  | "ge" => some ge
  | "lt" => some lt
  | "le" => some le
  | _ => none

/-- The function that a word stands for. -/
def TextFunction.ofKeyword? : String → Option TextFunction
  | "contains" => some contains
  | "startswith" => some startsWith
  | "endswith" => some endsWith
  | _ => none

@[simp]
theorem Comparison.ofKeyword?_keyword (op : Comparison) : ofKeyword? op.keyword = some op := by
  cases op <;> decide

@[simp]
theorem TextFunction.ofKeyword?_keyword (function : TextFunction) :
    ofKeyword? function.keyword = some function := by
  cases function <;> decide

namespace Text

/-- The text without the parentheses around it. -/
def unwrapped (s : String) : String :=
  String.ofList (s.toList.drop 1).dropLast

/-- The entries of a list with a blank behind every comma. -/
def entries (s : String) : List String :=
  if s = "" then []
  else
    match pieces ',' s with
    | [] => []
    | t :: ts => t :: ts.map fun t => String.ofList (t.toList.drop 1)

@[simp]
theorem unwrapped_group (s : String) : unwrapped ("(" ++ s ++ ")") = s := by
  have hlist : ("(" ++ s ++ ")").toList.drop 1 = s.toList ++ [')'] := by
    simp only [String.toList_append]
    rfl
  rw [unwrapped, hlist, List.dropLast_concat, String.ofList_toList]

/-- The entries of a joined list are found again, if it does not look like an
    empty one. -/
theorem entries_intercalate {ts : List String} (h : ∀ t ∈ ts, Closed [','] t) (hne : ts ≠ [""]) :
    entries (", ".intercalate ts) = ts := by
  cases ts with
  | nil => rfl
  | cons t ts =>
      have hempty : ", ".intercalate (t :: ts) ≠ "" := by
        intro heq
        cases ts with
        | nil =>
            rw [String.intercalate_singleton] at heq
            exact hne (by rw [heq])
        | cons u us =>
            rw [String.intercalate_cons_cons, String.append_eq_empty_iff,
              String.append_eq_empty_iff] at heq
            exact absurd heq.1.2 (by decide)
      have hjoint : ", " = String.singleton ',' ++ " " := rfl
      have hpieces : pieces ',' (", ".intercalate (t :: ts)) = t :: ts.map (" " ++ ·) := by
        rw [hjoint]
        exact pieces_intercalate rfl (by decide) h
      have hblank (u : String) : String.ofList ((" " ++ u).toList.drop 1) = u := by
        rw [String.toList_append]
        exact String.ofList_toList
      rw [entries, if_neg hempty, hpieces]
      simp only [List.map_map, Function.comp_def, hblank, List.map_id']

end Text

/-- A literal is never empty, since nothing is read from an empty text. -/
theorem Value.text_ne_empty (v : Value) : v.text ≠ "" := by
  have hnone : ofText? "" = none := by decide
  intro h
  rcases v.ofText?_text with ⟨w, hw, -⟩
  rw [h, hnone] at hw
  exact absurd hw nofun

/-- The parts that are found in a text. -/
def Parts.ofText? (s : String) : Option Parts :=
  match outerWords s with
  | [path, word, rest] =>
    match Comparison.ofKeyword? word with
    | some op => some ⟨path, .compare op, [rest]⟩
    | none => if word = "in" then some ⟨path, .isIn, entries (unwrapped rest)⟩ else none
  | [word] =>
    let name := word.toList.takeWhile (· ≠ '(')
    let arguments := word.toList.dropWhile (· ≠ '(')
    match TextFunction.ofKeyword? (String.ofList name),
      entries (unwrapped (String.ofList arguments)) with
    | some function, [path, literal] => some ⟨path, .call function, [literal]⟩
    | _, _ => none
  | _ => none

-- The name of a function ends at the first parenthesis.
theorem Predicate.span_call (function : TextFunction) (field : Field) (s : String) :
    (call function field s).text.toList.takeWhile (· ≠ '(') = function.keyword.toList ∧
      (call function field s).text.toList.dropWhile (· ≠ '(') =
        ("(" ++ (field.pathText ++ ", " ++ quoted s) ++ ")").toList := by
  have havoids : Avoids ['('] function.keyword := by cases function <;> decide
  have hname : ∀ c ∈ function.keyword.toList, decide (c ≠ '(') = true := by
    intro c hc
    exact decide_eq_true fun heq => havoids.not_mem List.mem_cons_self (heq ▸ hc)
  have harguments : ∃ rest, ("(" ++ (field.pathText ++ ", " ++ quoted s) ++ ")").toList =
      '(' :: rest := by
    rw [String.toList_append, String.toList_append]
    exact ⟨_, rfl⟩
  rcases harguments with ⟨rest, hrest⟩
  rw [text_call, String.toList_append, hrest, List.takeWhile_append_of_pos hname,
    List.dropWhile_append_of_pos hname]
  exact ⟨List.append_nil _, rfl⟩

namespace Parts

variable {field : Field}

theorem ofText?_compare (h : Avoids Predicate.delimiters field.pathText) (op : Comparison)
    (value : Value) :
    ofText? (Predicate.compare field op value).text =
      some ⟨field.pathText, .compare op, [value.text]⟩ := by
  have hpath : Closed [' '] field.pathText := closed_of_avoids (h.mono (by decide))
  simp [ofText?, Predicate.outerWords_compare field hpath]

theorem ofText?_isIn (h : Avoids Predicate.delimiters field.pathText) (values : List Value) :
    ofText? (Predicate.isIn field values).text =
      some ⟨field.pathText, .isIn, values.map Value.text⟩ := by
  have hpath : Closed [' '] field.pathText := closed_of_avoids (h.mono (by decide))
  have hin : Comparison.ofKeyword? "in" = none := by decide
  have hentries : entries (", ".intercalate (values.map Value.text)) = values.map Value.text := by
    refine entries_intercalate (fun t ht => ?_) fun hone => ?_
    · rcases List.mem_map.mp ht with ⟨v, -, rfl⟩
      exact v.closed_text.mono (by decide)
    · have hmem : "" ∈ values.map Value.text := hone ▸ List.mem_singleton.mpr rfl
      rcases List.mem_map.mp hmem with ⟨v, -, hv⟩
      exact v.text_ne_empty hv
  simp [ofText?, Predicate.outerWords_isIn field hpath, hin, hentries]

theorem ofText?_call (h : Avoids Predicate.delimiters field.pathText) (function : TextFunction)
    (s : String) :
    ofText? (Predicate.call function field s).text =
      some ⟨field.pathText, .call function, [quoted s]⟩ := by
  have hpath : Closed [' '] field.pathText := closed_of_avoids (h.mono (by decide))
  have hcomma : Closed [','] field.pathText := closed_of_avoids (h.mono (by decide))
  have hjoined : field.pathText ++ ", " ++ quoted s =
      ", ".intercalate [field.pathText, quoted s] := by
    rw [String.intercalate_cons_cons, String.intercalate_singleton]
  have hentries : entries (field.pathText ++ ", " ++ quoted s) = [field.pathText, quoted s] := by
    rw [hjoined]
    refine entries_intercalate (List.forall_mem_cons.mpr ⟨hcomma, ?_⟩) (by simp)
    exact List.forall_mem_singleton.mpr (closed_quoted (by decide) s)
  rcases Predicate.span_call function field s with ⟨htake, hdrop⟩
  rw [ofText?, Predicate.outerWords_call field hpath]
  simp only [htake, hdrop, String.ofList_toList, TextFunction.ofKeyword?_keyword, unwrapped_group,
    hentries]

/-- The parts of a predicate are found in its text. -/
theorem ofText?_text {p : Predicate} (h : Avoids Predicate.delimiters p.field.pathText) :
    ofText? p.text = some p.parts := by
  cases p with
  | compare field op value => exact ofText?_compare h op value
  | isNull field =>
      rw [Predicate.text_isNull]
      exact ofText?_compare h .eq .null
  | isNotNull field =>
      rw [Predicate.text_isNotNull]
      exact ofText?_compare h .ne .null
  | isIn field values => exact ofText?_isIn h values
  | call function field s => exact ofText?_call h function s

/-- What a predicate of these parts is written as. -/
def text : Parts → String
  | ⟨path, .compare op, literals⟩ => path ++ (" " ++ op.keyword ++ " ") ++ ", ".intercalate literals
  | ⟨path, .isIn, literals⟩ =>
    path ++ (" " ++ "in" ++ " ") ++ ("(" ++ ", ".intercalate literals ++ ")")
  | ⟨path, .call function, literals⟩ =>
    function.keyword ++ ("(" ++ (path ++ ", " ++ ", ".intercalate literals) ++ ")")

end Parts

namespace Predicate

variable {p q : Predicate}

-- Nothing else goes into the text.
@[simp]
theorem text_parts (p : Predicate) : p.parts.text = p.text := by
  have hcompare (field : Field) (op : Comparison) (value : Value) :
      (compare field op value).parts.text = (compare field op value).text := by
    have hliteral : ", ".intercalate [value.text] = value.text := String.intercalate_singleton
    rw [text_compare, ← hliteral]
    rfl
  cases p with
  | compare field op value => exact hcompare field op value
  | isNull field => exact (hcompare field .eq .null).trans (text_isNull field).symm
  | isNotNull field => exact (hcompare field .ne .null).trans (text_isNotNull field).symm
  | isIn field values => exact (text_isIn field values).symm
  | call function field s =>
      have hliteral : ", ".intercalate [quoted s] = quoted s := String.intercalate_singleton
      rw [text_call, ← hliteral]
      rfl

/-- Predicates have one text exactly when they have the same parts. -/
theorem text_eq_iff (hp : Avoids delimiters p.field.pathText)
    (hq : Avoids delimiters q.field.pathText) : p.text = q.text ↔ p.parts = q.parts := by
  refine ⟨fun h => ?_, fun h => by rw [← text_parts, h, text_parts]⟩
  have hparts := Parts.ofText?_text hq
  rw [← h, Parts.ofText?_text hp] at hparts
  exact Option.some.inj hparts

/-- Literals that are written alike denote the same, one by one. -/
theorem literals_same (h : p.parts = q.parts) :
    List.Forall₂ (fun v w => v.same w = true) p.literals q.literals := by
  have htexts : p.literals.map Value.text = q.literals.map Value.text := congrArg Parts.literals h
  rw [← List.forall₂_eq_eq_eq, List.forall₂_map_left_iff, List.forall₂_map_right_iff] at htexts
  exact htexts.imp fun _ _ => Value.same_of_text_eq

end Predicate

/-- Predicates delimit themselves. On a path without delimiters, a scan finds the
    path, the operator and all literals, whatever these hold, and a test for
    null shows as a comparison with null. So predicates have one text exactly
    when they have the same parts, and then they have equal literals, one by
    one. -/
theorem predicates_delimit_themselves (p q : Predicate)
    (hp : Avoids Predicate.delimiters p.field.pathText)
    (hq : Avoids Predicate.delimiters q.field.pathText) :
    ((∀ entry ∈ [(Comparison.eq, "eq"), (.ne, "ne"), (.gt, "gt"), (.ge, "ge"), (.lt, "lt"),
        (.le, "le")], ∀ value,
      (Predicate.compare p.field entry.1 value).text =
        p.field.pathText ++ " " ++ entry.2 ++ " " ++ value.text) ∧
    (∀ values, (Predicate.isIn p.field values).text =
      p.field.pathText ++ " in (" ++ ", ".intercalate (values.map Value.text) ++ ")") ∧
    ∀ entry ∈ [(TextFunction.contains, "contains"), (.startsWith, "startswith"),
        (.endsWith, "endswith")], ∀ s,
      (Predicate.call entry.1 p.field s).text =
        entry.2 ++ "(" ++ p.field.pathText ++ ", " ++ (Value.string s).text ++ ")") ∧
    (Parts.ofText? p.text = some ⟨p.field.pathText, p.operator, p.literals.map Value.text⟩ ∧
      Parts.ofText? (Predicate.isNull p.field).text =
        some ⟨p.field.pathText, .compare .eq, ["null"]⟩ ∧
      Parts.ofText? (Predicate.isNotNull p.field).text =
        some ⟨p.field.pathText, .compare .ne, ["null"]⟩) ∧
    (p.text = q.text ↔ p.field.pathText = q.field.pathText ∧ p.operator = q.operator ∧
      p.literals.map Value.text = q.literals.map Value.text) ∧
    (p.text = q.text →
      List.Forall₂ (fun v w => v.same w = true) p.literals q.literals) := by
  have hparts := Predicate.text_eq_iff hp hq
  have hnull : Parts.ofText? (Predicate.isNull p.field).text =
      some ⟨p.field.pathText, .compare .eq, ["null"]⟩ := Parts.ofText?_text hp
  have hnotNull : Parts.ofText? (Predicate.isNotNull p.field).text =
      some ⟨p.field.pathText, .compare .ne, ["null"]⟩ := Parts.ofText?_text hp
  refine ⟨⟨fun entry hentry value => ?_, fun values => ?_, fun entry hentry s => ?_⟩,
    ⟨Parts.ofText?_text hp, hnull, hnotNull⟩, ?_, fun h => Predicate.literals_same (hparts.mp h)⟩
  · have hword : entry.1.keyword = entry.2 := by
      revert entry
      decide
    rw [Predicate.text, Predicate.toFilter, Field.compare_eq, hword]
    rfl
  · rw [Predicate.text, Predicate.toFilter, Field.isIn_eq]
    rfl
  · have hword : entry.1.keyword = entry.2 := by
      revert entry
      decide
    rw [Predicate.text, Predicate.toFilter, Field.call_eq, hword]
    rfl
  · rw [hparts, Predicate.parts, Predicate.parts, Parts.mk.injEq]

/-- A list of three literals, one of them full of delimiters, is read as three.
    The list of nothing is not the list of the empty string. -/
theorem hostile_members_are_counted :
    let hostile : Predicate :=
      .isIn (.text "name") [.string "', 'x') or name eq ('", .number ⟨15, 1⟩, .string ""]
    let none : Predicate := .isIn (.text "name") []
    let empty : Predicate := .isIn (.text "name") [.string ""]
    Avoids Predicate.delimiters hostile.field.pathText ∧
      Parts.ofText? hostile.text =
        some ⟨"name", .isIn, ["''', ''x'') or name eq ('''", "1.5", "''"]⟩ ∧
      none.text ≠ empty.text := by
  intro hostile none empty
  have hpath : Avoids Predicate.delimiters "name" := by decide
  rcases predicates_delimit_themselves hostile hostile hpath hpath with ⟨-, ⟨hread, -, -⟩, -, -⟩
  rcases predicates_delimit_themselves none empty hpath hpath with ⟨-, -, hiff, -⟩
  exact ⟨hpath, hread, fun h => absurd (hiff.mp h).2.2 (by decide)⟩

end OData
