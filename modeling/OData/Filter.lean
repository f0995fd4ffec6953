import OData.Text.Occurrence

/-!
# Filter Fragments

A `$filter` fragment is a piece of text that is never parsed. Fragments are
combined by writing a connective between them, and the only question is when
an operand needs parentheses.

That question is answered by the text alone: a fragment is compound when one of
the two connectives, blanks included, stands anywhere in it. A literal such as
`'cats and dogs'` makes a fragment compound as well, which costs a pair of
parentheses and changes no meaning.

Only the right operand of a connective is ever wrapped. The left operand is
text that has already been written, and it stays as it is.

## Main definitions

* `Filter`: A fragment.
* `Connective`: The two words that join fragments.
* `Filter.isCompound`: A connective stands somewhere in the fragment.
* `Filter.wrapIfCompound`: The fragment as an operand.
* `Filter.and`, `Filter.or`, `Filter.not`: Combination of fragments.
* `Filter.conjoin`: Several fragments as one condition.

## Theorems

* `Filter.isCompound_iff`: Compound fragments, by the infix relation.
* `Filter.wrapIfCompound_eq_self_iff`: Exactly the atomic fragments stay as
  they are.
-/

namespace OData

/-- A fragment of a `$filter` value, taken as it stands. -/
structure Filter where
  /-- The characters of the fragment. -/
  text : String
deriving DecidableEq

/-- The words that join two fragments. -/
inductive Connective where
  | and
  | or
deriving DecidableEq

/-- The connective with the blanks on both sides. -/
def Connective.text : Connective → String
  | .and => " and "
  | .or => " or "

namespace Filter

/-- Whether a connective stands somewhere in the fragment, be it in a quoted
    literal. -/
def isCompound (f : Filter) : Bool :=
  Text.occurs Connective.or.text.toList f.text.toList ||
    Text.occurs Connective.and.text.toList f.text.toList

/-- The fragment between parentheses. -/
def parenthesized (f : Filter) : Filter :=
  ⟨"(" ++ f.text ++ ")"⟩

/-- The fragment as an operand: between parentheses when it is compound. -/
def wrapIfCompound (f : Filter) : Filter :=
  if f.isCompound then f.parenthesized else f

/-- Two fragments joined by a connective. The left one is never wrapped. -/
def combine (c : Connective) (left right : Filter) : Filter :=
  ⟨left.text ++ c.text ++ right.wrapIfCompound.text⟩

/-- The conjunction of two fragments. -/
def and (left right : Filter) : Filter :=
  combine .and left right

/-- The disjunction of two fragments. -/
def or (left right : Filter) : Filter :=
  combine .or left right

/-- The negation of a fragment, always between parentheses. -/
def not (f : Filter) : Filter :=
  ⟨"not " ++ f.parenthesized.text⟩

/-- Several fragments as one condition. A single fragment stays as it is; of
    two or more, the first included, each becomes an operand. No fragments give
    no condition. -/
def conjoin : List Filter → Option Filter
  | [] => none
  | [f] => some f
  | fs => some ⟨Connective.and.text.intercalate (fs.map fun f => f.wrapIfCompound.text)⟩

theorem isCompound_iff (f : Filter) :
    f.isCompound = true ↔
      " or ".toList <:+: f.text.toList ∨ " and ".toList <:+: f.text.toList := by
  simp only [isCompound, Bool.or_eq_true, Text.occurs_iff_infix, Connective.text]

@[simp]
theorem wrapIfCompound_eq_self_iff (f : Filter) :
    f.wrapIfCompound = f ↔ f.isCompound = false := by
  cases h : f.isCompound with
  | false => simp only [wrapIfCompound, h, Bool.false_eq_true, if_false]
  | true =>
      simp only [wrapIfCompound, h, if_true, Bool.true_eq_false, iff_false]
      intro heq
      have hlen := congrArg (fun g : Filter => g.text.toList.length) heq
      simp only [parenthesized, String.toList_append, List.length_append] at hlen
      have : "(".toList.length = 1 := rfl
      omega

end Filter

end OData
