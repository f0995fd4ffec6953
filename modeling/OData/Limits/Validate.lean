import OData.Limits.Basic
import OData.Query.Relation

/-!
# Validation

A query is within its limits when every level of it is. The levels are visited
from the top, each before the relations expanded in it, and the first broken
cap is the answer.

At one level the order is: items taken, sort keys, selected fields, length of
the filter, and then the depth of the relations expanded there, if any. A query
that expands nothing has no depth to check, whatever the cap.

## Main definitions

* `Limits.checkTop`, `Limits.checkOrderby`, `Limits.checkSelect`,
  `Limits.checkFilter`, `Limits.checkDepth`: The single checks.
* `Limits.checkOptions`: The checks on the options of one level.
* `Limits.validate`: The check of a whole query.
-/

namespace OData

namespace Limits

/-- Checks a number of items. -/
def checkTop (ls : Limits) (top : Nat) : Except Violation Unit :=
  if ls.maxTop < top then .error (.topTooLarge top ls.maxTop) else .ok ()

/-- Checks a number of sort keys. -/
def checkOrderby (ls : Limits) (count : Nat) : Except Violation Unit :=
  if ls.maxOrderbyFields < count then .error (.tooManyOrderbyFields count ls.maxOrderbyFields)
  else .ok ()

/-- Checks a number of selected fields. -/
def checkSelect (ls : Limits) (count : Nat) : Except Violation Unit :=
  if ls.maxSelectFields < count then .error (.tooManySelectFields count ls.maxSelectFields)
  else .ok ()

/-- Checks the number of characters of a filter. -/
def checkFilter (ls : Limits) (f : Filter) : Except Violation Unit :=
  if ls.maxFilterLength < f.text.length then
    .error (.filterTooLong f.text.length ls.maxFilterLength)
  else .ok ()

/-- Checks the depth of the relations of one level, if it has any. -/
def checkDepth (ls : Limits) (depth : Nat) (expands : List Relation) : Except Violation Unit :=
  if !expands.isEmpty ∧ ls.maxExpandDepth < depth then
    .error (.expandTooDeep depth ls.maxExpandDepth)
  else .ok ()

/-- Checks the options of one level. -/
def checkOptions (ls : Limits) (o : Options) : Except Violation Unit := do
  if let some top := o.take then ls.checkTop top
  ls.checkOrderby o.orderby.length
  ls.checkSelect o.select.length
  if let some f := Filter.conjoin o.filters then ls.checkFilter f

mutual

/-- Checks a relation at the given depth. -/
def checkRelation (ls : Limits) (depth : Nat) : Relation → Except Violation Unit
  | ⟨_, _, options, expands⟩ => do
    ls.checkOptions options
    ls.checkDepth (depth + 1) expands
    ls.checkRelations (depth + 1) expands

/-- Checks several relations at the given depth, in order. -/
def checkRelations (ls : Limits) (depth : Nat) : List Relation → Except Violation Unit
  | [] => .ok ()
  | r :: rs => do
    ls.checkRelation depth r
    ls.checkRelations depth rs

end

/-- Checks a whole query. -/
def validate (ls : Limits) (q : Query) : Except Violation Unit := do
  ls.checkOptions q.options
  ls.checkDepth 1 q.expands
  ls.checkRelations 1 q.expands

end Limits

end OData
