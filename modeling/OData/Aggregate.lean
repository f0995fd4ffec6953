import OData.Field

/-!
# Aggregates

The clause that follows a grouping: entries of a property, a method and the
name under which the result is found. The services' own methods are passed
through by name. A method of that kind is not one of the predefined ones, even
where it is spelled like one.

## Main definitions

* `AggregateFn`: The methods.
* `AggregateEntry`: One aggregated property.
* `Aggregate`: A clause.
* `Aggregate.text`: The clause as it is written.
-/

namespace OData

/-- A method of aggregation. -/
inductive AggregateFn where
  | sum
  | min
  | max
  | average
  | countDistinct
  /-- A method that the service defines, by name. -/
  | custom (name : String)
deriving DecidableEq

/-- The word for a method. -/
def AggregateFn.keyword : AggregateFn → String
  | sum => "sum"
  | min => "min"
  | max => "max"
  | average => "average"
  | countDistinct => "countdistinct"
  | custom name => name

/-- One property aggregated by one method. -/
structure AggregateEntry where
  /-- The property. -/
  property : Field
  /-- The method. -/
  function : AggregateFn
  /-- The name of the result. -/
  label : String
deriving DecidableEq

/-- The property, the method and the name of the result, as they are written. -/
def AggregateEntry.text (e : AggregateEntry) : String :=
  e.property.pathText ++ " with " ++ e.function.keyword ++ " as " ++ e.label

/-- An aggregate clause: its entries in the order they were added. -/
structure Aggregate where
  /-- The entries. -/
  entries : List AggregateEntry := []
deriving DecidableEq

namespace Aggregate

/-- The clause without entries. -/
def empty : Aggregate := {}

/-- The clause with one entry more at its end. -/
def add (a : Aggregate) (e : AggregateEntry) : Aggregate :=
  ⟨a.entries ++ [e]⟩

/-- Whether there are no entries. -/
def isEmpty (a : Aggregate) : Bool :=
  a.entries.isEmpty

/-- The entries with a comma and a blank between them. -/
def text (a : Aggregate) : String :=
  ", ".intercalate (a.entries.map AggregateEntry.text)

end Aggregate

end OData
