import OData.Aggregate
import OData.Expr
import OData.OrderKey
import OData.Query.Relation

/-!
# Building Steps

A query is built by a sequence of steps. Steps are data, so a whole program
can be reasoned about before it is run. Every step makes a new query and
leaves the old one as it was.

Most steps are shared by queries and relations. Grouping is for whole queries
alone, and strictness for relations alone. The step that expands a relation
carries the steps that build it, and these start from a relation that asks for
nothing, whatever the state outside.

A step touches the options or adds relations, never both. `Options.edit` and
`Step.relations` are those two halves.

## Main definitions

* `Step`, `RelationStep`, `QueryStep`: The steps.
* `Step.orderByDir`, `Step.count`: Abbreviations.
* `Options.edit`: What a shared step does to the options.
* `Step.relations`: The relations that a shared step adds.
* `Relation.apply`, `Relation.applyAll`: Steps on a relation.
* `Query.apply`, `Query.applyAll`: Steps on a query.
-/

namespace OData

mutual

/-- The steps that queries and relations share. -/
inductive Step where
  /-- Select more fields. -/
  | select (fields : List Field)
  /-- Add a filter fragment. -/
  | filter (condition : Condition)
  /-- Add a sort key. -/
  | orderBy (key : OrderKey)
  /-- Expand a relation that is built by its own steps. -/
  | expand (name : Field) (steps : List RelationStep)
  /-- Set the number of items to leave out. -/
  | skip (n : Nat)
  /-- Set the number of items to take. -/
  | take (n : Nat)
  /-- Set the count flag. -/
  | withCount (flag : Bool)
  /-- Ask for a page. -/
  | paginate (request : Pagination)

/-- The steps on a relation. -/
inductive RelationStep where
  /-- A shared step. -/
  | shared (step : Step)
  /-- Make the relation strict. -/
  | strict

end

/-- The steps on a whole query. -/
inductive QueryStep where
  /-- A shared step. -/
  | shared (step : Step)
  /-- Group by fields, with an aggregate clause unless it is empty. -/
  | groupBy (fields : List Field) (aggregate : Aggregate)

namespace Step

/-- Adds the path of a field with a direction as a sort key. -/
def orderByDir (field : Field) (dir : Direction) : Step :=
  orderBy ⟨.text field.pathText, some dir⟩

/-- Asks for the number of items. -/
def count : Step :=
  withCount true

end Step

namespace Options

/-- What a shared step does to the options. -/
def edit (o : Options) : Step → Options
  | .select fields => { o with select := o.select ++ fields.map Field.pathText }
  | .filter condition => { o with filters := o.filters ++ [condition.fragment] }
  | .orderBy key => { o with orderby := o.orderby ++ [key.text] }
  | .expand _ _ => o
  | .skip n => { o with skip := some n }
  | .take n => { o with take := some n }
  | .withCount flag => { o with count := some flag }
  | .paginate request => o.paginate request

/-- Groups by fields. Any earlier grouping is replaced together with its
    aggregate clause, and an empty clause leaves none. -/
def group (o : Options) (fields : List Field) (aggregate : Aggregate) : Options :=
  { o with
    groupby := fields.map Field.pathText
    aggregator := if aggregate.isEmpty then none else some aggregate.text }

end Options

mutual

/-- The relations that a shared step adds. -/
def Step.relations : Step → List Relation
  | .expand name steps => [(Relation.named name.pathText).applyAll steps]
  | .select _ | .filter _ | .orderBy _ | .skip _ | .take _ | .withCount _ | .paginate _ => []

/-- A relation after one step. -/
def Relation.apply (r : Relation) : RelationStep → Relation
  | .shared s => { r with options := r.options.edit s, expands := r.expands ++ s.relations }
  | .strict => { r with strict := true }

/-- A relation after several steps. -/
def Relation.applyAll (r : Relation) : List RelationStep → Relation
  | [] => r
  | s :: ss => (r.apply s).applyAll ss

end

namespace Query

/-- A query after one step. -/
def apply (q : Query) : QueryStep → Query
  | .shared s => ⟨q.options.edit s, q.expands ++ s.relations⟩
  | .groupBy fields aggregate => { q with options := q.options.group fields aggregate }

/-- A query after several steps. -/
def applyAll (q : Query) (steps : List QueryStep) : Query :=
  steps.foldl apply q

end Query

end OData
