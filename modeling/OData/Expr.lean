import OData.Predicate

/-!
# Filter Expressions

A filter expression is a tree of `and`, `or` and `not` over leaves of any kind.
Its text is found by writing the leaves and combining the fragments from the
leaves upwards, so the tree is remembered only as far as the parentheses show
it.

In particular the left operand of a connective is never wrapped. A disjunction
on the left of a conjunction is written without parentheses, and the text then
reads as another tree.

The leaves that occur in practice are predicates and fragments written by
hand, which `Atom` puts together.

## Main definitions

* `Expr`: A tree over leaves of some type.
* `Expr.toFilter`: The fragment of a tree.
* `Expr.leftAnd?`, `Expr.leftOr?`: Chains nested to the left.
* `Atom`: A predicate or a fragment written by hand.
-/

namespace OData

/-- A Boolean expression over leaves. -/
inductive Expr (α : Type) where
  | leaf (a : α)
  | and (left right : Expr α)
  | or (left right : Expr α)
  | not (e : Expr α)
deriving DecidableEq

namespace Expr

variable {α : Type}

/-- The fragment of an expression, given the fragments of its leaves. -/
def toFilter (leafFilter : α → Filter) : Expr α → Filter
  | leaf a => leafFilter a
  | and l r => (l.toFilter leafFilter).and (r.toFilter leafFilter)
  | or l r => (l.toFilter leafFilter).or (r.toFilter leafFilter)
  | not e => (e.toFilter leafFilter).not

/-- The conjunction of one or more expressions, each new one the right operand. -/
def leftAnd? : List (Expr α) → Option (Expr α)
  | [] => none
  | e :: es => some (es.foldl and e)

/-- The disjunction of one or more expressions, each new one the right
    operand. -/
def leftOr? : List (Expr α) → Option (Expr α)
  | [] => none
  | e :: es => some (es.foldl or e)

end Expr

/-- A leaf of a filter expression. -/
inductive Atom where
  /-- A fragment written by hand. -/
  | raw (text : String)
  /-- A condition on a field. -/
  | predicate (p : Predicate)
deriving DecidableEq

/-- The fragment of a leaf. -/
def Atom.toFilter : Atom → Filter
  | raw text => ⟨text⟩
  | predicate p => p.toFilter

/-- The expressions that a query is filtered by. -/
abbrev Condition := Expr Atom

/-- The fragment of a condition. -/
def Condition.fragment (c : Condition) : Filter :=
  c.toFilter Atom.toFilter

end OData
