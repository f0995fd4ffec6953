import OData.Query.Relation
import OData.Text.Digits

/-!
# Query Grammars

How a query is written. The same options are written in two ways: at the top
level as parameters of a query string, and inside a relation as operators of a
block. Each has its own order of the options and its own separators, and only
the top level writes grouping.

Both grammars are therefore one record, and one function gives the value of an
option under it. An option that is not set has no value and is left out. The
order never depends on the order of the building steps.

A relation is written as its key, a mark if it is strict, and the block if it
has anything to write.

## Main definitions

* `SystemOption`: The options a query string can hold.
* `Grammar`: The order of the options and the separators in their values.
* `Grammar.topLevel`, `Grammar.block`: The two grammars.
* `Options.value?`: The value of an option, if it is set.
* `Options.parameters`: The options that are set, in the order of a grammar.
* `Relation.text`: A relation as it stands in `$expand`.
* `Query.params`: The parameters of the whole query.
* `Query.text`: The query string.

## Theorems

* `Relation.texts_eq_map`: A list of relations is written one by one.
-/

namespace OData

/-- The options of a query string. -/
inductive SystemOption where
  | filter
  | apply
  | expand
  | select
  | orderby
  | skip
  | top
  | count
deriving DecidableEq

/-- The key of an option. -/
def SystemOption.key : SystemOption → String
  | filter => "$filter"
  | apply => "$apply"
  | expand => "$expand"
  | select => "$select"
  | orderby => "$orderby"
  | skip => "$skip"
  | top => "$top"
  | count => "$count"

/-- An option and its value. -/
structure Parameter where
  /-- The option. -/
  option : SystemOption
  /-- Its value as it is written. -/
  value : String
deriving DecidableEq

/-- The key, an equals sign and the value. -/
def Parameter.text (p : Parameter) : String :=
  p.option.key ++ "=" ++ p.value

/-- A way of writing options. -/
structure Grammar where
  /-- The options that are written, in order. -/
  order : List SystemOption
  /-- What stands between selected paths. -/
  selectSeparator : String
  /-- What stands between sort keys. -/
  orderbySeparator : String
  /-- What stands between expanded relations. -/
  expandSeparator : String
deriving DecidableEq

namespace Grammar

/-- The query string at the top level. -/
def topLevel : Grammar where
  order := [.filter, .apply, .expand, .select, .orderby, .skip, .top, .count]
  selectSeparator := ","
  orderbySeparator := ", "
  expandSeparator := ","

/-- The block of a relation. -/
def block : Grammar where
  order := [.skip, .top, .count, .orderby, .select, .filter, .expand]
  selectSeparator := ","
  orderbySeparator := ","
  expandSeparator := ","

end Grammar

/-- The texts with a separator between them, or nothing if there are none. -/
def listed? (separator : String) (texts : List String) : Option String :=
  if texts.isEmpty then none else some (separator.intercalate texts)

namespace Options

/-- The grouping and its aggregate clause, if results are grouped. -/
def applyText? (o : Options) : Option String :=
  match listed? ", " o.groupby, o.aggregator with
  | none, _ => none
  | some fields, none => some ("groupby((" ++ fields ++ "))")
  | some fields, some clause => some ("groupby((" ++ fields ++ "), aggregate(" ++ clause ++ "))")

/-- The value of an option, if it is set, given the texts of the expanded
    relations. -/
def value? (g : Grammar) (o : Options) (expanded : List String) : SystemOption → Option String
  | .filter => (Filter.conjoin o.filters).map Filter.text
  | .apply => o.applyText?
  | .expand => listed? g.expandSeparator expanded
  | .select => listed? g.selectSeparator o.select
  | .orderby => listed? g.orderbySeparator o.orderby
  | .skip => o.skip.map Text.decimal
  | .top => o.take.map Text.decimal
  | .count => if o.count = some true then some "true" else none

/-- The options that are set, in the order of the grammar. -/
def parameters (g : Grammar) (o : Options) (expanded : List String) : List Parameter :=
  g.order.filterMap fun option => (o.value? g expanded option).map (Parameter.mk option)

end Options

mutual

/-- A relation as it stands in `$expand`: the key, a mark if it is strict, and
    the block of its operators if it has any. -/
def Relation.text : Relation → String
  | ⟨key, strict, options, expands⟩ =>
    let head := key ++ (if strict then "!" else "")
    if Query.hasOperators ⟨options, expands⟩ then
      head ++ "(" ++
        ";".intercalate ((options.parameters .block (texts expands)).map Parameter.text) ++ ")"
    else head

/-- The texts of several relations. -/
def Relation.texts : List Relation → List String
  | [] => []
  | r :: rs => r.text :: texts rs

end

/-- The operators inside the block of a relation. -/
def Relation.operators (r : Relation) : List Parameter :=
  r.options.parameters .block (texts r.expands)

namespace Query

/-- The parameters of the query string. -/
def params (q : Query) : List Parameter :=
  q.options.parameters .topLevel (Relation.texts q.expands)

/-- The query string: a question mark and the parameters, or nothing if there
    are none. -/
def text (q : Query) : String :=
  if q.params.isEmpty then ""
  else "?" ++ "&".intercalate (q.params.map Parameter.text)

end Query

@[simp]
theorem Relation.texts_eq_map (rs : List Relation) : texts rs = rs.map text := by
  induction rs with
  | nil => simp only [texts, List.map_nil]
  | cons r rs ih => simp only [texts, ih, List.map_cons]

end OData
