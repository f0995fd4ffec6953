import OData.Text.Digits

/-!
# Limits

The caps that a query may be held to before it is sent, and the ways it can
break one of them.

The five caps have a fixed order, which is the order they are declared in and
the order of their values where they are given without names.

## Main definitions

* `Limit`: The five caps.
* `Limits`: A value for each cap.
* `Limits.get`, `Limits.set`: The caps by name.
* `Limits.default`: The values that hold unless they are changed.
* `Violation`: A broken cap, with the offending value and the cap.

## Theorems

* `Limits.get_set`: A cap that was set has the new value, and no other changes.
* `Limits.ext_get`: Limits are equal when every cap is.
-/

namespace OData

/-- The caps on a query. -/
inductive Limit where
  /-- On the number of items taken. -/
  | top
  /-- On the number of sort keys. -/
  | orderby
  /-- On the number of selected fields. -/
  | select
  /-- On the length of the filter in characters. -/
  | filter
  /-- On the depth of expanded relations. -/
  | expand
deriving DecidableEq

namespace Limit

/-- The caps in their order. -/
def all : List Limit :=
  [top, orderby, select, filter, expand]

/-- The name of a cap in a configuration. -/
def key : Limit → String
  | top => "max_top"
  | orderby => "max_orderby_fields"
  | select => "max_select_fields"
  | filter => "max_filter_length"
  | expand => "max_expand_depth"

/-- The cap of the given name. -/
def ofKey? (name : String) : Option Limit :=
  all.find? fun l => l.key == name

@[simp]
theorem ofKey?_key (l : Limit) : ofKey? l.key = some l := by
  cases l <;> decide

end Limit

/-- A value for each cap. -/
structure Limits where
  /-- The most items taken. -/
  maxTop : Nat
  /-- The most sort keys. -/
  maxOrderbyFields : Nat
  /-- The most selected fields. -/
  maxSelectFields : Nat
  /-- The most characters of a filter. -/
  maxFilterLength : Nat
  /-- The greatest depth of relations; one directly in the query has depth
      one. -/
  maxExpandDepth : Nat
deriving DecidableEq

namespace Limits

/-- The values that hold unless they are changed. -/
def default : Limits where
  maxTop := 1000
  maxOrderbyFields := 5
  maxSelectFields := 100
  maxFilterLength := 2000
  maxExpandDepth := 5

/-- The value of a cap. -/
def get (ls : Limits) : Limit → Nat
  | .top => ls.maxTop
  | .orderby => ls.maxOrderbyFields
  | .select => ls.maxSelectFields
  | .filter => ls.maxFilterLength
  | .expand => ls.maxExpandDepth

/-- The limits with one cap changed. -/
def set (ls : Limits) (l : Limit) (n : Nat) : Limits :=
  match l with
  | .top => { ls with maxTop := n }
  | .orderby => { ls with maxOrderbyFields := n }
  | .select => { ls with maxSelectFields := n }
  | .filter => { ls with maxFilterLength := n }
  | .expand => { ls with maxExpandDepth := n }

@[simp]
theorem get_set (ls : Limits) (l m : Limit) (n : Nat) :
    (ls.set l n).get m = if m = l then n else ls.get m := by
  cases l <;> cases m <;> rfl

theorem ext_get {ls ms : Limits} (h : ∀ l, ls.get l = ms.get l) : ls = ms := by
  cases ls
  cases ms
  simp only [mk.injEq]
  exact ⟨h .top, h .orderby, h .select, h .filter, h .expand⟩

end Limits

/-- A broken cap. -/
inductive Violation where
  /-- More items are taken than allowed. -/
  | topTooLarge (top max : Nat)
  /-- There are more sort keys than allowed. -/
  | tooManyOrderbyFields (count max : Nat)
  /-- More fields are selected than allowed. -/
  | tooManySelectFields (count max : Nat)
  /-- The filter has more characters than allowed. -/
  | filterTooLong (length max : Nat)
  /-- Relations are nested more deeply than allowed. -/
  | expandTooDeep (depth max : Nat)
deriving DecidableEq

namespace Violation

/-- The value that is too large. -/
def found : Violation → Nat
  | topTooLarge n _ | tooManyOrderbyFields n _ | tooManySelectFields n _ | filterTooLong n _
  | expandTooDeep n _ => n

/-- The cap that was broken. -/
def allowed : Violation → Nat
  | topTooLarge _ m | tooManyOrderbyFields _ m | tooManySelectFields _ m | filterTooLong _ m
  | expandTooDeep _ m => m

/-- The violation in words. -/
def message : Violation → String
  | topTooLarge top max =>
      "$top " ++ Text.decimal top ++ " exceeds the maximum of " ++ Text.decimal max
  | tooManyOrderbyFields count max =>
      "$orderby has " ++ Text.decimal count ++ " fields, the maximum is " ++ Text.decimal max
  | tooManySelectFields count max =>
      "$select has " ++ Text.decimal count ++ " fields, the maximum is " ++ Text.decimal max
  | filterTooLong length max =>
      "$filter is " ++ Text.decimal length ++ " characters long, the maximum is " ++
        Text.decimal max
  | expandTooDeep depth max =>
      "$expand nesting depth " ++ Text.decimal depth ++ " exceeds the maximum of " ++
        Text.decimal max

end Violation

end OData
