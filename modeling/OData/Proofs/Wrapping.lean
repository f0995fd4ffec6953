import OData.Expr

/-!
# Where Parentheses Stand

Whether an operand is wrapped is decided by its text, in which a connective is
looked for as a run of characters. The text is put together from leaves that
may hold anything, so a run might come about where two pieces meet, or be
broken up there. It never is. The parentheses written around a fragment occur
in no connective, so nothing can reach across them, and a connective that was
written stays where it is. What the text decides is therefore what the tree
says: an operand is wrapped when it has a connective of its own, `not` or no
`not` around it, or a leaf that holds the text of one.

`Expr.printed` writes a tree by that rule and never looks at a text it has
written. It agrees with combining fragments.

Fragments that are asked for one by one are joined as a list, in which the first
one is an operand like the others. Chained with `and`, the first one is a left
operand, and these are never wrapped. Behind it the two texts are the same,
which is `Filter.conjuncts`.

## Main definitions

* `Filter.HoldsConnective`: The text of a connective stands in a fragment.
* `Expr.connectives`, `Expr.leaves`: What a tree is made of.
* `Expr.Composite`: A tree has a connective, or a leaf that holds one.
* `Expr.printed`: A tree written with parentheses where it is composite.
* `Filter.conjuncts`: The operands behind the first one of a conjunction.

## Theorems

* `infix_append_cons_iff`: A pattern cannot reach across a character it avoids.
* `Filter.isCompound_combine`, `Filter.isCompound_not`: Combined fragments are
  compound, negated ones as they were.
* `Expr.isCompound_toFilter_iff`: The text of a tree is compound when the tree
  is composite.
* `Expr.text_toFilter`: The text of a tree is the tree, printed.
* `parentheses_follow_the_tree`: Both together.
* `Filter.foldl_and_eq`, `Filter.conjoin_cons`: Both ways of joining, by what
  stands behind the first fragment.
* `conjoined_as_chained`: Where they agree, and how they differ.
-/

namespace OData

-- A pattern without the character ends in front of it or begins behind it.
theorem infix_append_cons_iff {α : Type} {p xs ys : List α} {c : α} (h : c ∉ p) :
    p <:+: xs ++ c :: ys ↔ p <:+: xs ∨ p <:+: ys := by
  have hfront {q : List α} (hq : c ∉ q) : q <+: c :: ys → q = [] := by
    intro hpre
    rcases List.prefix_cons_iff.mp hpre with hnil | ⟨t, rfl, _⟩
    · exact hnil
    · exact absurd List.mem_cons_self hq
  constructor
  · intro hinfix
    rcases List.infix_append_iff_ne_nil.mp hinfix with hxs | hys | ⟨p₁, p₂, _, hne, rfl, _, hpre⟩
    · exact Or.inl hxs
    · rcases List.infix_cons_iff.mp hys with hpre | hys
      · rw [hfront h hpre]
        exact Or.inr List.nil_infix
      · exact Or.inr hys
    · exact absurd (hfront (fun hc => h (List.mem_append_right p₁ hc)) hpre) hne
  · rintro (hxs | hys)
    · exact List.infix_append_of_infix_left hxs
    · exact List.infix_append_of_infix_right (List.infix_cons hys)

/-- The characters of a connective are not among those written around a
    fragment. -/
theorem Connective.paren_not_mem (c : Connective) : '(' ∉ c.text.toList ∧ ')' ∉ c.text.toList := by
  cases c <;> decide

namespace Filter

/-- The text of a connective stands somewhere in the fragment. -/
def HoldsConnective (f : Filter) : Prop :=
  ∃ c : Connective, c.text.toList <:+: f.text.toList

theorem isCompound_iff_holdsConnective (f : Filter) :
    f.isCompound = true ↔ f.HoldsConnective := by
  rw [isCompound_iff]
  constructor
  · rintro (h | h)
    · exact ⟨.or, h⟩
    · exact ⟨.and, h⟩
  · rintro ⟨c, h⟩
    cases c with
    | and => exact Or.inr h
    | or => exact Or.inl h

instance (f : Filter) : Decidable f.HoldsConnective :=
  decidable_of_iff (f.isCompound = true) f.isCompound_iff_holdsConnective

/-- A fragment that was combined is compound. -/
@[simp]
theorem isCompound_combine (c : Connective) (f g : Filter) : (combine c f g).isCompound = true := by
  rw [isCompound_iff_holdsConnective]
  refine ⟨c, f.text.toList, g.wrapIfCompound.text.toList, ?_⟩
  simp only [combine, String.toList_append]

/-- Parentheses neither make a connective nor break one up. -/
@[simp]
theorem isCompound_not (f : Filter) : f.not.isCompound = f.isCompound := by
  have htext : f.not.text.toList = "not ".toList ++ '(' :: (f.text.toList ++ ')' :: []) := by
    simp only [not, parenthesized, String.toList_append]
    rfl
  have hword (c : Connective) : ¬ c.text.toList <:+: "not ".toList := by cases c <;> decide
  have hnil (c : Connective) : ¬ c.text.toList <:+: [] := by cases c <;> decide
  rw [Bool.eq_iff_iff, isCompound_iff_holdsConnective, isCompound_iff_holdsConnective]
  refine exists_congr fun c => ?_
  rw [htext, infix_append_cons_iff c.paren_not_mem.1, infix_append_cons_iff c.paren_not_mem.2,
    or_iff_right (hword c), or_iff_left (hnil c)]

theorem text_wrapIfCompound (f : Filter) :
    f.wrapIfCompound.text = if f.isCompound then "(" ++ f.text ++ ")" else f.text := by
  unfold wrapIfCompound
  split <;> rfl

end Filter

namespace Expr

variable {α : Type}

/-- The connectives of a tree, from left to right, each behind its left
    operand. -/
def connectives : Expr α → List Connective
  | leaf _ => []
  | and l r => l.connectives ++ .and :: r.connectives
  | or l r => l.connectives ++ .or :: r.connectives
  | not e => e.connectives

/-- The leaves of a tree, from left to right. -/
def leaves : Expr α → List α
  | leaf a => [a]
  | and l r => l.leaves ++ r.leaves
  | or l r => l.leaves ++ r.leaves
  | not e => e.leaves

variable (leafFilter : α → Filter)

/-- The tree has a connective, or one of its leaves holds the text of one. -/
def Composite (e : Expr α) : Prop :=
  e.connectives ≠ [] ∨ ∃ a ∈ e.leaves, (leafFilter a).HoldsConnective

instance (e : Expr α) : Decidable (e.Composite leafFilter) :=
  inferInstanceAs (Decidable (_ ∨ _))

/-- The text of a tree. A right operand stands between parentheses when it is
    composite, a left one never does, and what is negated always does. -/
def printed : Expr α → String
  | leaf a => (leafFilter a).text
  | and l r =>
    let operand := if r.Composite leafFilter then "(" ++ r.printed ++ ")" else r.printed
    l.printed ++ " and " ++ operand
  | or l r =>
    let operand := if r.Composite leafFilter then "(" ++ r.printed ++ ")" else r.printed
    l.printed ++ " or " ++ operand
  | not e => "not (" ++ e.printed ++ ")"

variable {leafFilter}

/-- The text of a tree is compound when the tree is composite. -/
theorem isCompound_toFilter_iff (e : Expr α) :
    (e.toFilter leafFilter).isCompound = true ↔ e.Composite leafFilter := by
  induction e with
  | leaf a =>
      simp only [toFilter, Filter.isCompound_iff_holdsConnective, Composite, connectives, leaves,
        ne_eq, not_true_eq_false, false_or, List.mem_singleton, exists_eq_left]
  | and l r _ _ =>
      exact iff_of_true (Filter.isCompound_combine .and _ _)
        (Or.inl (List.append_ne_nil_of_right_ne_nil _ (List.cons_ne_nil _ _)))
  | or l r _ _ =>
      exact iff_of_true (Filter.isCompound_combine .or _ _)
        (Or.inl (List.append_ne_nil_of_right_ne_nil _ (List.cons_ne_nil _ _)))
  | not e ih =>
      rw [toFilter, Filter.isCompound_not]
      exact ih

-- What the text of an operand decides is what the operand itself says.
theorem text_operand (e : Expr α) :
    (e.toFilter leafFilter).wrapIfCompound.text =
      if e.Composite leafFilter then "(" ++ (e.toFilter leafFilter).text ++ ")"
      else (e.toFilter leafFilter).text := by
  simp only [Filter.text_wrapIfCompound, isCompound_toFilter_iff]

/-- The text of a tree is the tree, printed. -/
theorem text_toFilter (e : Expr α) : (e.toFilter leafFilter).text = e.printed leafFilter := by
  induction e with
  | leaf a => rfl
  | and l r ihl ihr =>
      simp only [toFilter, Filter.and, Filter.combine, text_operand, printed, ihl, ihr]
      rfl
  | or l r ihl ihr =>
      simp only [toFilter, Filter.or, Filter.combine, text_operand, printed, ihl, ihr]
      rfl
  | not e ih =>
      have hopen : "not (" = "not " ++ "(" := rfl
      simp only [toFilter, Filter.not, Filter.parenthesized, printed, ih, hopen,
        String.append_assoc]

end Expr

/-- Parentheses follow the tree, for leaves of any text. A fragment counts as
    compound exactly when its tree has a connective or a leaf that holds one,
    and what is written is the tree printed by that rule. -/
theorem parentheses_follow_the_tree {α : Type} (leafFilter : α → Filter) (e : Expr α) :
    ((e.toFilter leafFilter).isCompound = true ↔
      e.connectives ≠ [] ∨
        ∃ a ∈ e.leaves, ∃ c : Connective, c.text.toList <:+: (leafFilter a).text.toList) ∧
    (e.toFilter leafFilter).text = e.printed leafFilter :=
  ⟨e.isCompound_toFilter_iff, e.text_toFilter⟩

-- The leaf would end in a connective if a blank stood behind it.
example : (Expr.and (.leaf "a") (.not (.leaf "b or"))).printed Filter.mk = "a and not (b or)" := by
  decide

namespace Filter

/-- The operands behind the first one of a conjunction, each with the
    connective in front. -/
def conjuncts (fs : List Filter) : String :=
  String.join (fs.map fun f => Connective.and.text ++ f.wrapIfCompound.text)

@[simp]
theorem conjuncts_nil : conjuncts [] = "" := rfl

@[simp]
theorem conjuncts_cons (f : Filter) (fs : List Filter) :
    conjuncts (f :: fs) = Connective.and.text ++ f.wrapIfCompound.text ++ conjuncts fs := by
  rw [conjuncts, List.map_cons, String.join_cons]
  rfl

@[simp]
theorem conjuncts_append (fs gs : List Filter) :
    conjuncts (fs ++ gs) = conjuncts fs ++ conjuncts gs := by
  rw [conjuncts, List.map_append, String.join_append]
  rfl

/-- Chained with `and`, the first fragment stays as it is. -/
theorem foldl_and_eq (f : Filter) (fs : List Filter) :
    fs.foldl and f = ⟨f.text ++ conjuncts fs⟩ := by
  induction fs generalizing f with
  | nil => simp
  | cons g gs ih =>
      rw [List.foldl_cons, ih, conjuncts_cons]
      simp only [and, combine, String.append_assoc]

-- A join of operands is the first of them and what stands behind it.
theorem intercalate_eq_conjuncts (s : String) (fs : List Filter) :
    Connective.and.text.intercalate (s :: fs.map fun f => f.wrapIfCompound.text) =
      s ++ conjuncts fs := by
  induction fs generalizing s with
  | nil => simp
  | cons g gs ih =>
      rw [List.map_cons, String.intercalate_cons_cons, ih, conjuncts_cons]
      simp only [String.append_assoc]

/-- Joined as a list, the first fragment becomes an operand unless it is the
    only one. -/
theorem conjoin_cons (f : Filter) (fs : List Filter) :
    conjoin (f :: fs) =
      some ⟨(if fs = [] then f.text else f.wrapIfCompound.text) ++ conjuncts fs⟩ := by
  cases fs with
  | nil =>
      rw [if_pos rfl, conjuncts_nil, String.append_empty]
      rfl
  | cons g gs =>
      rw [if_neg (List.cons_ne_nil g gs), ← intercalate_eq_conjuncts]
      rfl

end Filter

/-- Two or more fragments that are joined as a list are a chain whose first
    fragment was made an operand before. So they are the plain chain exactly
    when the first one is not compound, and else they differ from it by one pair
    of parentheses around the first one. -/
theorem conjoined_as_chained (f g : Filter) (fs : List Filter) :
    Filter.conjoin (f :: g :: fs) = some ((g :: fs).foldl Filter.and f.wrapIfCompound) ∧
    (Filter.conjoin (f :: g :: fs) = some ((g :: fs).foldl Filter.and f) ↔
      f.isCompound = false) ∧
    ∃ rest, ((g :: fs).foldl Filter.and f).text = f.text ++ rest ∧
      Filter.conjoin (f :: g :: fs) =
        some ⟨(if f.isCompound then "(" ++ f.text ++ ")" else f.text) ++ rest⟩ := by
  have hjoined : Filter.conjoin (f :: g :: fs) =
      some ⟨f.wrapIfCompound.text ++ Filter.conjuncts (g :: fs)⟩ := by
    rw [Filter.conjoin_cons, if_neg (List.cons_ne_nil g fs)]
  refine ⟨?_, ?_, Filter.conjuncts (g :: fs), ?_, ?_⟩
  · rw [hjoined, Filter.foldl_and_eq]
  · -- Behind the first fragment the texts are the same, so they are told apart in front.
    rw [hjoined, Filter.foldl_and_eq, Option.some.injEq, Filter.mk.injEq, String.append_left_inj,
      ← Filter.wrapIfCompound_eq_self_iff]
    exact ⟨fun h => congrArg Filter.mk h, congrArg Filter.text⟩
  · rw [Filter.foldl_and_eq]
  · rw [hjoined, Filter.text_wrapIfCompound]

end OData
