import OData.Proofs.Containment
import OData.Proofs.Reading
import OData.Proofs.Wrapping
import OData.Unicode.Alphanumeric

/-!
# Precedence of Combined Fragments

What a tree of fragments means to whoever reads its text. Right operands are
wrapped as soon as a connective stands in them, so they are read as one
operand. Left operands are never wrapped, and that is where meaning can
change: a conjunction whose left operand is a disjunction is read as a
disjunction, with the new operand taken in by its last part. `regrouped` is
the tree that is read, for any tree that was built.

It is the same tree exactly when no conjunction has a disjunction directly on
its left, which is `Shown`. Literals have no say in it. A connective in a
literal makes a fragment compound and so brings parentheses, but parentheses
change no reading.

The induction needs to know more of a left operand than how it is read. The
text of a tree is never in parentheses as a whole, so where it is read as a
disjunction, the last `or` stands in the open. `ReadsOpenly` says that.

## Main definitions

* `IsPlainPath`: A word of letters, digits, underscores and slashes, and not a
  word of the grammar.
* `Expr.map`: The same tree with other leaves.
* `Expr.regrouped`, `Expr.reading`: The tree that is read.
* `Expr.Plain`: All predicates are on plain paths.
* `Expr.Shown`: No conjunction has a disjunction directly on its left.
* `Reading.ReadsOpenly`: A text is read without looking into parentheses.

## Theorems

* `Expr.regrouped_eq_self_iff`: The tree that is read is the tree that was
  built.
* `Predicate.isPredicate`: The grammar takes a typed predicate as one.
* `Reading.readsAs_fragment_iff`: How a tree of predicates is read.
* `reads_as_built_iff`: When the reading is the tree that was built.
-/

namespace OData

open Text Reading

/-- The characters of a plain path. -/
def IsPathChar (c : Char) : Prop :=
  Unicode.isAlphanumeric c = true ∨ c = '_' ∨ c = '/'

instance (c : Char) : Decidable (IsPathChar c) :=
  inferInstanceAs (Decidable (_ ∨ _))

/-- A path that a filter can be read with. -/
structure IsPlainPath (s : String) : Prop where
  ne_empty : s ≠ ""
  chars : Over IsPathChar s
  not_reserved : s ∉ reserved

instance (s : String) : Decidable (IsPlainPath s) :=
  decidable_of_iff (s ≠ "" ∧ Over IsPathChar s ∧ s ∉ reserved)
    ⟨fun h => ⟨h.1, h.2.1, h.2.2⟩, fun h => ⟨h.1, h.2, h.3⟩⟩

theorem IsPlainPath.avoids {s : String} (h : IsPlainPath s) :
    Avoids [quote, '(', ')', ' ', ',', ';', '&'] s :=
  h.chars.avoids (by decide)

namespace Expr

variable {α β : Type}

/-- The same tree with other leaves. -/
def map (f : α → β) : Expr α → Expr β
  | leaf a => leaf (f a)
  | and l r => and (l.map f) (r.map f)
  | or l r => or (l.map f) (r.map f)
  | not e => not (e.map f)

/-- Whether the tree is a disjunction at its root. -/
def isOr : Expr α → Bool
  | or _ _ => true
  | leaf _ | and _ _ | not _ => false

/-- A conjunction as it is read when its left operand is not wrapped. Of a
    disjunction it takes the last part only. -/
def andLast : Expr α → Expr α → Expr α
  | or l r, e => or l (and r e)
  | leaf a, e => and (leaf a) e
  | and l r, e => and (and l r) e
  | not f, e => and (not f) e

/-- The tree that the text of a tree is read as. -/
def regrouped : Expr α → Expr α
  | leaf a => leaf a
  | and l r => l.regrouped.andLast r.regrouped
  | or l r => or l.regrouped r.regrouped
  | not e => not e.regrouped

/-- The tree that the fragment of a tree of predicates is read as. -/
abbrev reading (e : Expr Predicate) : Expr String :=
  (e.map Predicate.text).regrouped

/-- All predicates of the tree are on plain paths. -/
abbrev Plain (e : Expr Predicate) : Prop :=
  e.Every fun p => IsPlainPath p.field.pathText

/-- No conjunction of the tree has a disjunction directly on its left. -/
def Shown : Expr α → Prop
  | leaf _ => True
  | and l r => l.isOr = false ∧ l.Shown ∧ r.Shown
  | or l r => l.Shown ∧ r.Shown
  | not e => e.Shown

theorem isOr_map (f : α → β) (e : Expr α) : (e.map f).isOr = e.isOr := by
  cases e <;> rfl

theorem shown_map (f : α → β) (e : Expr α) : (e.map f).Shown ↔ e.Shown := by
  induction e with
  | leaf a => exact Iff.rfl
  | and l r ihl ihr => simp only [map, Shown, isOr_map, ihl, ihr]
  | or l r ihl ihr => simp only [map, Shown, ihl, ihr]
  | not e ih => simp only [map, Shown, ih]

theorem toFilter_map (f : α → β) (leafFilter : β → Filter) (e : Expr α) :
    (e.map f).toFilter leafFilter = e.toFilter fun a => leafFilter (f a) := by
  induction e with
  | leaf a => rfl
  | and l r ihl ihr => simp only [map, toFilter, ihl, ihr]
  | or l r ihl ihr => simp only [map, toFilter, ihl, ihr]
  | not e ih => simp only [map, toFilter, ih]

theorem andLast_eq {l e : Expr α} (h : l.isOr = false) : l.andLast e = and l e := by
  cases l with
  | or l r => exact absurd h (by simp only [isOr, reduceCtorEq, not_false_eq_true])
  | leaf a => rfl
  | and l r => rfl
  | not f => rfl

@[simp]
theorem isOr_andLast (l e : Expr α) : (l.andLast e).isOr = l.isOr := by
  cases l <;> rfl

/-- The tree that is read is the tree that was built, exactly when the text
    shows it. -/
theorem regrouped_eq_self_iff (e : Expr α) : e.regrouped = e ↔ e.Shown := by
  induction e with
  | leaf a => simp only [regrouped, Shown]
  | and l r ihl ihr =>
      simp only [regrouped, Shown, ← ihl, ← ihr]
      constructor
      · intro h
        have hor : l.regrouped.isOr = false := by
          have hroot := congrArg isOr h
          rwa [isOr_andLast] at hroot
        rw [andLast_eq hor, and.injEq] at h
        rw [h.1] at hor
        exact ⟨hor, h⟩
      · rintro ⟨hor, hl, hr⟩
        rw [hl, hr, andLast_eq hor]
  | or l r ihl ihr => simp only [regrouped, Shown, or.injEq, ihl, ihr]
  | not e ih => simp only [regrouped, Shown, not.injEq, ih]

end Expr

namespace Predicate

theorem text_not_reserved (v : Value) : v.text ∉ reserved := by
  rcases v.text_cases with hword | hbare | ⟨s, hs⟩
  · have hall : ∀ w ∈ Value.constants, w ∉ reserved := by decide
    exact hall _ hword
  · have hnone : ∀ w ∈ reserved, ¬ IsBare w := by decide
    exact fun hmem => hnone _ hmem hbare
  · rw [hs]
    refine not_reserved_of_mem (c := quote) ?_ (by decide)
    rw [quoted, String.toList_ofList]
    exact List.mem_cons_self

theorem append_ne_group {s rest t : String} (hne : s ≠ "") (h : '(' ∉ s.toList) :
    s ++ rest ≠ "(" ++ t := by
  intro heq
  have hlist := congrArg String.toList heq
  rw [String.toList_append, String.toList_append] at hlist
  cases hs : s.toList with
  | nil => exact hne (String.toList_eq_nil_iff.mp hs)
  | cons c cs =>
      rw [hs] at hlist h
      rw [List.cons_append, show "(".toList = ['('] from rfl, List.cons_append,
        List.cons.injEq] at hlist
      rw [hlist.1] at h
      exact h List.mem_cons_self

section

variable (field : Field) (hpath : Closed [' '] field.pathText)

include hpath

theorem outerWords_compare (op : Comparison) (value : Value) :
    outerWords (compare field op value).text = [field.pathText, op.keyword, value.text] := by
  have hop : Closed [' '] op.keyword := by cases op <;> decide
  have hvalue : outerWords value.text = [value.text] :=
    pieces_eq_singleton (value.closed_text.mono (by decide))
  rw [text_compare, outerWords_join (hpath.mono (List.nil_subset _)) hop, hvalue, outerWords,
    pieces_eq_singleton hpath, List.singleton_append]

theorem outerWords_isIn (values : List Value) :
    outerWords (isIn field values).text =
      [field.pathText, "in", "(" ++ ", ".intercalate (values.map Value.text) ++ ")"] := by
  rw [text_isIn, outerWords_join (hpath.mono (List.nil_subset _)) (by decide),
    outerWords_group (closed_members values), outerWords, pieces_eq_singleton hpath,
    List.singleton_append]

theorem outerWords_call (function : TextFunction) (s : String) :
    outerWords (call function field s).text = [(call function field s).text] := by
  have hfunction : Closed [' '] function.keyword := by cases function <;> decide
  have harguments := closed_arguments (hpath.mono (List.nil_subset _)) s
  rw [text_call]
  exact pieces_eq_singleton (hfunction.append (harguments.parenthesized (by decide)))

end

theorem call_not_reserved (function : TextFunction) (field : Field) (s : String) :
    (call function field s).text ∉ reserved := by
  refine not_reserved_of_mem (c := '(') ?_ (by decide)
  rw [text_call]
  simp only [String.toList_append, List.mem_append]
  exact Or.inr (Or.inl (Or.inl (by decide)))

/-- No word of the grammar is in sight in a predicate. -/
theorem not_mem_outerWords {p : Predicate} (h : IsPlainPath p.field.pathText) :
    ∀ w ∈ outerWords p.text, w ∉ reserved := by
  have hpath : Closed [' '] p.field.pathText := closed_of_avoids (h.avoids.mono (by decide))
  have hnot_reserved := h.not_reserved
  -- Literals are words of their own, and the words between are known.
  rcases p.text_cases with ⟨op, value, htext⟩ | ⟨values, htext⟩ | ⟨function, s, htext⟩
  · have hop : op.keyword ∉ reserved := by cases op <;> decide
    rw [htext, outerWords_compare p.field hpath]
    simp only [List.forall_mem_cons]
    exact ⟨hnot_reserved, hop, text_not_reserved value, nofun⟩
  · rw [htext, outerWords_isIn p.field hpath]
    simp only [List.forall_mem_cons]
    exact ⟨hnot_reserved, by decide, group_not_reserved _, nofun⟩
  · rw [htext, outerWords_call p.field hpath]
    simp only [List.forall_mem_cons]
    exact ⟨call_not_reserved function p.field s, nofun⟩

/-- A predicate does not start with a parenthesis. -/
theorem text_ne_group {p : Predicate} (h : IsPlainPath p.field.pathText) (t : String) :
    p.text ≠ "(" ++ t := by
  have hopen : '(' ∉ p.field.pathText.toList := fun hmem => h.avoids _ hmem (by decide)
  have hne := h.ne_empty
  rcases p.text_cases with ⟨op, value, htext⟩ | ⟨values, htext⟩ | ⟨function, s, htext⟩
  · rw [htext, text_compare, String.append_assoc]
    exact append_ne_group hne hopen
  · rw [htext, text_isIn, String.append_assoc]
    exact append_ne_group hne hopen
  · rw [htext, text_call]
    exact append_ne_group (by cases function <;> decide) (by cases function <;> decide)

/-- The grammar takes a predicate on a plain path as one, whatever its
    literals hold. -/
theorem isPredicate {p : Predicate} (h : IsPlainPath p.field.pathText) : IsPredicate p.text where
  closed := Closed.mono (List.nil_subset _) (closed_toFilter (h.avoids.mono (by decide)))
  words := fun w hw hmem => not_mem_outerWords h w hmem hw
  bare := text_ne_group h

end Predicate

namespace Reading

variable {s t : String} {e f : Expr String}

/-- A text is read as an expression without looking into parentheses: a
    disjunction has its last `or` in the open. -/
def ReadsOpenly (s : String) : Expr String → Prop
  | .or e f => ∃ t u, s = t ++ " or " ++ u ∧ Reads .disjunction t e ∧ Reads .conjunction u f
  | .leaf a => Reads .conjunction s (.leaf a)
  | .and e f => Reads .conjunction s (.and e f)
  | .not e => Reads .conjunction s (.not e)

theorem ReadsOpenly.readsAs (h : ReadsOpenly s e) : ReadsAs s e := by
  cases e with
  | or e f =>
      rcases h with ⟨t, u, rfl, he, hf⟩
      exact .or he hf
  | leaf a => exact .ofConjunction h
  | and e f => exact .ofConjunction h
  | not e => exact .ofConjunction h

/-- A conjunct behind an open text is taken in by its last part. -/
theorem ReadsOpenly.and (hs : ReadsOpenly s e) (ht : Reads .operand t f) :
    ReadsOpenly (s ++ " and " ++ t) (e.andLast f) := by
  cases e with
  | or e g =>
      -- The last `or` stays where it is, and what is behind it grows.
      rcases hs with ⟨u, v, rfl, he, hg⟩
      refine ⟨u, v ++ " and " ++ t, ?_, he, .and hg ht⟩
      simp only [String.append_assoc]
  | leaf a => exact .and hs ht
  | and e g => exact .and hs ht
  | not e => exact .and hs ht

theorem ReadsOpenly.or (hs : ReadsOpenly s e) (ht : Reads .operand t f) :
    ReadsOpenly (s ++ " or " ++ t) (.or e f) :=
  ⟨s, t, rfl, hs.readsAs, .ofOperand ht⟩

/-- Wrapping leaves an operand an operand. It may be wrapped on account of a
    literal. -/
theorem reads_wrapIfCompound {f : Filter} (h : Reads .operand f.text e) :
    Reads .operand f.wrapIfCompound.text e := by
  unfold Filter.wrapIfCompound
  cases f.isCompound with
  | true => exact .group (.ofConjunction (.ofOperand h))
  | false => exact h

/-- Wrapping makes an operand of a fragment that was combined. -/
theorem reads_wrapIfCompound_combine {c : Connective} {f g : Filter}
    (h : ReadsAs (Filter.combine c f g).text e) :
    Reads .operand (Filter.combine c f g).wrapIfCompound.text e := by
  unfold Filter.wrapIfCompound
  rw [Filter.isCompound_combine, if_pos (.refl true)]
  exact .group h

/-- How a tree of predicates is read, by itself and as an operand. The two go
    through the induction together: left operands are taken as they stand, and
    right ones wrapped. -/
theorem reads_fragment_and_operand {e : Expr Predicate} (h : e.Plain) :
    ReadsOpenly e.fragment.text e.reading ∧
      Reads .operand e.fragment.wrapIfCompound.text e.reading := by
  -- The induction is on the tree that was built, not on a derivation.
  induction e with
  | leaf p =>
      have hoperand : Reads .operand p.text (.leaf p.text) := .predicate (Predicate.isPredicate h)
      exact ⟨.ofOperand hoperand, reads_wrapIfCompound hoperand⟩
  | and l r ihl ihr =>
      have hopen := (ihl h.1).1.and (ihr h.2).2
      exact ⟨hopen, reads_wrapIfCompound_combine hopen.readsAs⟩
  | or l r ihl ihr =>
      have hopen := (ihl h.1).1.or (ihr h.2).2
      exact ⟨hopen, reads_wrapIfCompound_combine hopen.readsAs⟩
  | not e ih =>
      have hoperand : Reads .operand e.not.fragment.text e.not.reading := by
        have htext : e.not.fragment.text = "not (" ++ e.fragment.text ++ ")" := by
          have hnot : "not (" = "not " ++ "(" := rfl
          simp only [Expr.toFilter, Filter.not, Filter.parenthesized, hnot, String.append_assoc]
        rw [htext]
        exact .not (ih h).1.readsAs
      exact ⟨.ofOperand hoperand, reads_wrapIfCompound hoperand⟩

/-- A tree of predicates is read as its regrouped tree and as nothing else. -/
theorem readsAs_fragment_iff {e : Expr Predicate} (h : e.Plain) {r : Expr String} :
    ReadsAs e.fragment.text r ↔ r = e.reading :=
  (reads_fragment_and_operand h).1.readsAs.iff_eq

/-- Wrapping changes no reading. -/
theorem readsAs_wrapIfCompound_iff {e : Expr Predicate} (h : e.Plain) {r : Expr String} :
    ReadsAs e.fragment.wrapIfCompound.text r ↔ r = e.reading :=
  ReadsAs.iff_eq (.ofConjunction (.ofOperand (reads_fragment_and_operand h).2))

end Reading

/-- A tree of predicates has one reading. It is the tree that was built exactly
    when no conjunction has a disjunction directly on its left, and wrapping
    has no part in it, be it called for by a connective or by a literal. -/
theorem reads_as_built_iff (e : Expr Predicate) (h : e.Plain) :
    (∃ r, ∀ r', ReadsAs e.fragment.text r' ↔ r' = r) ∧
    (ReadsAs e.fragment.text (e.map Predicate.text) ↔ e.Shown) ∧
    ∀ r, ReadsAs e.fragment.wrapIfCompound.text r ↔ ReadsAs e.fragment.text r := by
  refine ⟨⟨_, fun r => readsAs_fragment_iff h⟩, ?_, ?_⟩
  · rw [readsAs_fragment_iff h, eq_comm, Expr.regrouped_eq_self_iff, Expr.shown_map]
  · intro r
    rw [readsAs_wrapIfCompound_iff h, readsAs_fragment_iff h]

/-- A connective in a literal brings parentheses and keeps the tree. A
    disjunction on the left of a conjunction brings none and loses it. -/
theorem literal_connective_reads_as_built :
    let tune : Expr Predicate := .leaf (.compare (.text "name") .eq (.string "rock or roll's"))
    let known : Expr Predicate := .leaf (.isIn (.text "genre/id") [.null, .string " and ("])
    let shown : Expr Predicate := .and (.not tune) (.or known tune)
    let lost : Expr Predicate := .and (.or tune known) tune
    shown.Plain ∧ lost.Plain ∧
      ReadsAs shown.fragment.text (shown.map Predicate.text) ∧
      ¬ ReadsAs lost.fragment.text (lost.map Predicate.text) := by
  intro tune known shown lost
  have hshown : shown.Plain := by decide
  have hlost : lost.Plain := by decide
  refine ⟨hshown, hlost, ?_, ?_⟩
  · exact (reads_as_built_iff shown hshown).2.1.mpr ⟨rfl, trivial, trivial, trivial⟩
  · intro h
    have hor := ((reads_as_built_iff lost hlost).2.1.mp h).1
    exact absurd hor (by decide)

end OData
