import OData.Expr
import OData.Proofs.Cut

/-!
# Reading Filters

How a service reads a filter. The grammar has three levels. A disjunction is a
chain of conjunctions, a conjunction is a chain of operands, and an operand is
a negation, a disjunction in parentheses, or a predicate. Both connectives
associate to the left, and parentheses leave no trace in what is read.

Of predicates the grammar wants only what a reader that skips literals can
see: quotes are paired, parentheses are balanced, the predicate is not in
parentheses itself, and none of the words of the grammar stands in it outside
quotes and parentheses. The leaves of what is read are the texts of the
predicates.

The grammar is unambiguous. A connective stands between blanks outside quotes
and parentheses, so cutting a text at such blanks gives a list of words in
which the connectives are easy to see. The last `or` of a disjunction is the
one its derivation split it at, since no conjunction has that word, and the
same goes for conjunctions and the last `and`. The pieces on both sides are
then the same in every derivation.

## Main definitions

* `Level`: The levels of the grammar.
* `reserved`: The words of the grammar.
* `IsPredicate`: What the grammar takes as a predicate.
* `Reads`: A text is read as an expression.
* `ReadsAs`: A whole filter is read as an expression.

## Theorems

* `Reads.closed`: A text that is read is balanced.
* `Reads.not_mem_outerWords`: The words that a level leaves to the levels above.
* `Reads.unique`: A text is read in one way at most.
* `ReadsAs.iff_eq`: The reading of a filter is its only one.
-/

namespace OData

open Text

namespace Reading

/-- The words of the grammar. -/
abbrev reserved : List String := ["and", "or", "not"]

/-- The text as words: what stands between blanks outside quotes and
    parentheses. -/
abbrev outerWords (s : String) : List String :=
  pieces ' ' s

/-- What the grammar takes as a predicate. -/
structure IsPredicate (s : String) : Prop where
  /-- Quotes are paired and parentheses are balanced. -/
  closed : Closed [] s
  /-- No word of the grammar is in sight. -/
  words : ∀ w ∈ reserved, w ∉ outerWords s
  /-- It is not in parentheses itself. -/
  bare : ∀ t, s ≠ "(" ++ t

/-- The levels of the grammar, the loosest first. -/
inductive Level where
  | disjunction
  | conjunction
  | operand

/-- A text is read as an expression, at some level of the grammar. -/
inductive Reads : Level → String → Expr String → Prop
  /-- A disjunction of one conjunction. -/
  | ofConjunction {s : String} {e : Expr String} (h : Reads .conjunction s e) :
      Reads .disjunction s e
  /-- A disjunction with one more conjunction. -/
  | or {s t : String} {e f : Expr String} (hs : Reads .disjunction s e)
      (ht : Reads .conjunction t f) : Reads .disjunction (s ++ " or " ++ t) (.or e f)
  /-- A conjunction of one operand. -/
  | ofOperand {s : String} {e : Expr String} (h : Reads .operand s e) : Reads .conjunction s e
  /-- A conjunction with one more operand. -/
  | and {s t : String} {e f : Expr String} (hs : Reads .conjunction s e)
      (ht : Reads .operand t f) : Reads .conjunction (s ++ " and " ++ t) (.and e f)
  /-- A negation. -/
  | not {s : String} {e : Expr String} (h : Reads .disjunction s e) :
      Reads .operand ("not (" ++ s ++ ")") (.not e)
  /-- A disjunction in parentheses. -/
  | group {s : String} {e : Expr String} (h : Reads .disjunction s e) :
      Reads .operand ("(" ++ s ++ ")") e
  /-- A predicate. -/
  | predicate {s : String} (h : IsPredicate s) : Reads .operand s (.leaf s)

/-- The connectives that a level leaves to the levels above it. -/
def Level.excluded : Level → List String
  | .disjunction => []
  | .conjunction => ["or"]
  | .operand => ["or", "and"]

variable {s t s' t' w : String}

theorem outerWords_join (hs : Closed [] s) (hw : Closed [' '] w) :
    outerWords (s ++ (" " ++ w ++ " ") ++ t) = outerWords s ++ w :: outerWords t := by
  have hblank : " " = String.singleton ' ' := rfl
  have htext : s ++ (" " ++ w ++ " ") ++ t =
      s ++ String.singleton ' ' ++ (w ++ String.singleton ' ' ++ t) := by
    simp only [hblank, String.append_assoc]
  rw [outerWords, htext, pieces_append rfl hs, pieces_append rfl (hw.mono (List.nil_subset _)),
    pieces_eq_singleton hw, List.singleton_append]

theorem outerWords_group (hs : Closed [] s) : outerWords ("(" ++ s ++ ")") = ["(" ++ s ++ ")"] :=
  pieces_eq_singleton (hs.parenthesized (by decide))

theorem not_group_eq (s : String) :
    "not (" ++ s ++ ")" = "not" ++ String.singleton ' ' ++ ("(" ++ s ++ ")") := by
  have hopen : "not (" = "not" ++ String.singleton ' ' ++ "(" := rfl
  rw [hopen]
  simp only [String.append_assoc]

theorem outerWords_not (hs : Closed [] s) :
    outerWords ("not (" ++ s ++ ")") = ["not", "(" ++ s ++ ")"] := by
  have hnot : Closed [' '] "not" := by decide
  have hgroup : pieces ' ' ("(" ++ s ++ ")") = ["(" ++ s ++ ")"] := outerWords_group hs
  rw [outerWords, not_group_eq, pieces_append rfl (by decide), pieces_eq_singleton hnot, hgroup,
    List.singleton_append]

/-- A text with a character that no word of the grammar has is none of
    them. -/
theorem not_reserved_of_mem {c : Char} (hc : c ∈ s.toList)
    (h : c ∉ ['a', 'n', 'd', 'o', 'r', 't']) : s ∉ reserved := by
  intro hs
  have hall : ∀ w ∈ reserved, Over (· ∈ ['a', 'n', 'd', 'o', 'r', 't']) w := by decide
  exact h (hall s hs c hc)

theorem group_not_reserved (s : String) : "(" ++ s ++ ")" ∉ reserved := by
  have hopen : '(' ∈ ("(" ++ s ++ ")").toList := by
    rw [String.append_assoc, String.toList_append]
    exact List.mem_append_left _ (by decide)
  exact not_reserved_of_mem hopen (by decide)

/-- A joint is found again if its word stands nowhere behind it. -/
theorem join_inj (hs : Closed [] s) (hs' : Closed [] s') (hw : Closed [' '] w)
    (ht : w ∉ outerWords t) (ht' : w ∉ outerWords t')
    (h : s ++ (" " ++ w ++ " ") ++ t = s' ++ (" " ++ w ++ " ") ++ t') : s = s' ∧ t = t' := by
  have hwords := congrArg outerWords h
  rw [outerWords_join hs hw, outerWords_join hs' hw] at hwords
  rcases split_last hwords ht ht' with ⟨hleft, hright⟩
  exact ⟨pieces_injective hleft, pieces_injective hright⟩

/-! ### The kinds of operands -/

theorem not_ne_group (hs : Closed [] s) (ht : Closed [] t) :
    "not (" ++ s ++ ")" ≠ "(" ++ t ++ ")" := by
  intro heq
  have hwords := outerWords_not hs
  rw [heq, outerWords_group ht] at hwords
  simp only [List.cons.injEq, reduceCtorEq, and_false] at hwords

theorem IsPredicate.ne_not (h : IsPredicate s) (ht : Closed [] t) :
    s ≠ "not (" ++ t ++ ")" := by
  rintro rfl
  refine h.words "not" (by decide) ?_
  rw [outerWords_not ht]
  exact List.mem_cons_self

theorem IsPredicate.ne_group (h : IsPredicate s) : s ≠ "(" ++ t ++ ")" := by
  rw [String.append_assoc]
  exact h.bare _

namespace Reads

variable {l : Level} {e e' : Expr String}

/-- A text that is read is balanced. -/
theorem closed (h : Reads l s e) : Closed [] s := by
  induction h with
  | ofConjunction _ ih => exact ih
  | or _ _ ihs iht => exact (ihs.append (by decide)).append iht
  | ofOperand _ ih => exact ih
  | and _ _ ihs iht => exact (ihs.append (by decide)).append iht
  | not _ ih =>
      rw [not_group_eq]
      exact Closed.append (by decide) (ih.parenthesized List.not_mem_nil)
  | group _ ih => exact ih.parenthesized List.not_mem_nil
  | predicate h => exact h.closed

/-- The words that a level leaves to the levels above are not in sight. -/
theorem not_mem_outerWords (h : Reads l s e) : ∀ w ∈ l.excluded, w ∉ outerWords s := by
  induction h with
  | ofConjunction _ _ => exact fun w hw => absurd hw List.not_mem_nil
  | or _ _ _ _ => exact fun w hw => absurd hw List.not_mem_nil
  | ofOperand _ ih =>
      intro w hw
      exact ih w (List.mem_append_left ["and"] hw)
  | @and s t _ _ hs _ ihs iht =>
      intro w hw
      have hwords : outerWords (s ++ " and " ++ t) = outerWords s ++ "and" :: outerWords t :=
        outerWords_join (w := "and") hs.closed (by decide)
      rw [hwords, List.mem_append, List.mem_cons, not_or, not_or]
      refine ⟨ihs w hw, ?_, iht w (List.mem_append_left ["and"] hw)⟩
      rw [List.mem_singleton.mp hw]
      decide
  | @not s _ h _ =>
      -- The words of a negation are its own and what is in parentheses.
      intro w hw
      rw [outerWords_not h.closed, List.mem_cons, List.mem_singleton, not_or]
      have hreserved : w ∈ reserved ∧ w ≠ "not" := by
        revert w
        decide
      refine ⟨hreserved.2, fun heq => group_not_reserved s ?_⟩
      rw [← heq]
      exact hreserved.1
  | @group s _ h _ =>
      intro w hw
      rw [outerWords_group h.closed, List.mem_singleton]
      have hreserved : w ∈ reserved := by
        revert w
        decide
      intro heq
      rw [heq] at hreserved
      exact group_not_reserved s hreserved
  | predicate h =>
      intro w hw
      refine h.words w ?_
      revert w
      decide

theorem not_mem_outerWords_join (hs : Closed [] s) (hw : Closed [' '] w)
    (h : Reads l (s ++ (" " ++ w ++ " ") ++ t) e) : w ∉ l.excluded := by
  intro hmem
  refine h.not_mem_outerWords w hmem ?_
  rw [outerWords_join hs hw]
  exact List.mem_append_right _ List.mem_cons_self

/-- A text is read in one way at most. The induction follows one derivation,
    and the text fixes the last rule of the other. -/
theorem unique (h : Reads l s e) (h' : Reads l s e') : e = e' := by
  -- The second text is a variable of its own, so that its derivation can be taken apart.
  suffices hall : ∀ {s' e'}, Reads l s' e' → s = s' → e = e' from hall h' rfl
  clear h'
  induction h with
  | ofConjunction h ih =>
      intro s' e' h' heq
      cases h' with
      | ofConjunction h' => exact ih h' heq
      | or hs ht =>
          -- A conjunction leaves `or` to the level above.
          rw [heq] at h
          exact absurd (by decide) (not_mem_outerWords_join (w := "or") hs.closed (by decide) h)
  | or hs ht ihs iht =>
      intro s' e' h' heq
      cases h' with
      | ofConjunction h' =>
          rw [← heq] at h'
          exact absurd (by decide) (not_mem_outerWords_join (w := "or") hs.closed (by decide) h')
      | or hs' ht' =>
          -- Neither right part has an `or` in sight, so both cuts are at the last one.
          rcases join_inj (w := "or") hs.closed hs'.closed (by decide)
            (ht.not_mem_outerWords _ (by decide)) (ht'.not_mem_outerWords _ (by decide)) heq
            with ⟨hl, hr⟩
          rw [ihs hs' hl, iht ht' hr]
  | ofOperand h ih =>
      intro s' e' h' heq
      cases h' with
      | ofOperand h' => exact ih h' heq
      | and hs ht =>
          rw [heq] at h
          exact absurd (by decide) (not_mem_outerWords_join (w := "and") hs.closed (by decide) h)
  | and hs ht ihs iht =>
      intro s' e' h' heq
      cases h' with
      | ofOperand h' =>
          rw [← heq] at h'
          exact absurd (by decide) (not_mem_outerWords_join (w := "and") hs.closed (by decide) h')
      | and hs' ht' =>
          rcases join_inj (w := "and") hs.closed hs'.closed (by decide)
            (ht.not_mem_outerWords _ (by decide)) (ht'.not_mem_outerWords _ (by decide)) heq
            with ⟨hl, hr⟩
          rw [ihs hs' hl, iht ht' hr]
  -- The three kinds of operands are told apart by their words and their first character.
  | not h ih =>
      intro s' e' h' heq
      cases h' with
      | not h' =>
          rw [ih h' ((String.append_right_inj _).mp ((String.append_left_inj _).mp heq))]
      | group h' => exact absurd heq (not_ne_group h.closed h'.closed)
      | predicate h' => exact absurd heq.symm (h'.ne_not h.closed)
  | group h ih =>
      intro s' e' h' heq
      cases h' with
      | not h' => exact absurd heq.symm (not_ne_group h'.closed h.closed)
      | group h' => exact ih h' ((String.append_right_inj _).mp ((String.append_left_inj _).mp heq))
      | predicate h' => exact absurd heq.symm h'.ne_group
  | predicate h =>
      intro s' e' h' heq
      cases h' with
      | not h' => exact absurd heq (h.ne_not h'.closed)
      | group h' => exact absurd heq h.ne_group
      | predicate h' => rw [heq]

end Reads

/-- A whole filter is read as an expression. -/
abbrev ReadsAs (s : String) (e : Expr String) : Prop :=
  Reads .disjunction s e

namespace ReadsAs

variable {e e' : Expr String}

/-- The reading of a filter is its only one. -/
theorem iff_eq (h : ReadsAs s e) : ReadsAs s e' ↔ e' = e := by
  constructor
  · intro h'
    exact h'.unique h
  · rintro rfl
    exact h

end ReadsAs

end Reading

end OData
