import Mathlib.Data.List.Basic
import OData.Query.Grammar
import OData.Query.Step

/-!
# The Outcome of Building

What a sequence of steps builds can be read off the sequence, without running
it. Lists grow by what the steps add, in the order of the calls. Of the values
that are overwritten the last one written stays, and the one from the start if
none was. A request for a page is the only shared step that writes more than
one value, and it writes the number of items to leave out only if it names a
page other than the first. Grouping writes two values as well, and always both.

The outcome takes the steps apart by what they write, so it cannot depend on
how steps that write different things are interleaved. `Step.writes` says what
a step writes in terms of the options of a query string. Two sequences that
agree on every option, each read on its own, build the same.

A relation is built by the steps it carries from a relation that asks for
nothing. The state outside is no argument of `Step.expansion?`, so nothing
leaks into it.

## Main definitions

* `lastWritten`: The last of the values written, or the one from before.
* `Step.selected?` and its like: What a step adds to a list.
* `Step.skipWritten?` and its like: What a step overwrites a value with.
* `QueryStep.grouping?`: The grouping that a step writes.
* `Options.outcome`, `Query.outcome`, `Relation.outcome`: What is built.
* `Step.writes`: The options that a step writes.

## Theorems

* `Options.edit_eq_outcome`: One step builds its outcome.
* `Options.outcome_append`: The outcome of a sequence, part by part.
* `Query.applyAll_eq_outcome`, `Relation.applyAll_eq_outcome`: So does a run.
* `Options.outcome_congr`: Steps that agree on every option build the same.
* `runs_build_their_outcome`: All of it together.
-/

namespace OData

/-- The last of the values that were written, or the one from before if none
    was. -/
def lastWritten {α : Type} (before : Option α) (written : List α) : Option α :=
  written.getLast?.or before

@[simp]
theorem lastWritten_nil {α : Type} (before : Option α) : lastWritten before [] = before := by
  rw [lastWritten, List.getLast?_nil, Option.none_or]

theorem lastWritten_append {α : Type} (before : Option α) (xs ys : List α) :
    lastWritten before (xs ++ ys) = lastWritten (lastWritten before xs) ys := by
  unfold lastWritten
  rw [List.getLast?_append, Option.or_assoc]

@[simp]
theorem filterMap_singleton {α β : Type} (f : α → Option β) (a : α) :
    [a].filterMap f = (f a).toList := by
  cases h : f a with
  | none => rw [List.filterMap_cons_none h, List.filterMap_nil, Option.toList_none]
  | some b => rw [List.filterMap_cons_some h, List.filterMap_nil, Option.toList_some]

namespace Step

/-- The paths that a step selects. -/
def selected? : Step → Option (List String)
  | .select fields => some (fields.map Field.pathText)
  | _ => none

/-- The filter fragment that a step adds. -/
def fragment? : Step → Option Filter
  | .filter condition => some condition.fragment
  | _ => none

/-- The sort key that a step adds. -/
def sortKey? : Step → Option String
  | .orderBy key => some key.text
  | _ => none

/-- The relation that a step adds: its own steps, run from the relation of its
    name that asks for nothing. -/
def expansion? : Step → Option Relation
  | .expand name steps => some ((Relation.named name.pathText).applyAll steps)
  | _ => none

/-- The number of items to leave out, if a step writes it. A page that is
    missing or the first one leaves it alone. -/
def skipWritten? : Step → Option Nat
  | .skip n => some n
  | .paginate ⟨pageSize, some (page + 1), _⟩ => some (min ((page + 1) * pageSize) maxCount)
  | _ => none

/-- The number of items to take, if a step writes it. -/
def takeWritten? : Step → Option Nat
  | .take n => some n
  | .paginate request => some request.pageSize
  | _ => none

/-- The count flag, if a step writes it. A page sets it unless told
    otherwise. -/
def countWritten? : Step → Option Bool
  | .withCount flag => some flag
  | .paginate ⟨_, _, none⟩ => some true
  | .paginate ⟨_, _, some flag⟩ => some flag
  | _ => none

end Step

namespace Options

/-- The options after several shared steps. -/
def outcome (o : Options) (steps : List Step) : Options :=
  { o with
    select := o.select ++ (steps.filterMap Step.selected?).flatten
    filters := o.filters ++ steps.filterMap Step.fragment?
    orderby := o.orderby ++ steps.filterMap Step.sortKey?
    skip := lastWritten o.skip (steps.filterMap Step.skipWritten?)
    take := lastWritten o.take (steps.filterMap Step.takeWritten?)
    count := lastWritten o.count (steps.filterMap Step.countWritten?) }

theorem outcome_append (o : Options) (ss ts : List Step) :
    o.outcome (ss ++ ts) = (o.outcome ss).outcome ts := by
  unfold outcome
  simp only [List.filterMap_append, List.flatten_append, List.append_assoc, lastWritten_append]

end Options

/-- The shared step that a step on a query is, if it is one. -/
def QueryStep.shared? : QueryStep → Option Step
  | .shared s => some s
  | .groupBy _ _ => none

/-- The fields and the aggregate clause that a step groups by. Both are written
    at once, and a clause without entries is none. -/
def QueryStep.grouping? : QueryStep → Option (List String × Option String)
  | .shared _ => none
  | .groupBy fields ⟨[]⟩ => some (fields.map Field.pathText, none)
  | .groupBy fields aggregate => some (fields.map Field.pathText, some aggregate.text)

/-- The shared step that a step on a relation is, if it is one. -/
def RelationStep.shared? : RelationStep → Option Step
  | .shared s => some s
  | .strict => none

/-- Whether a step makes a relation strict. -/
def RelationStep.isStrict : RelationStep → Bool
  | .shared _ => false
  | .strict => true

/-- The options with the last of several groupings. -/
def Options.regrouped (o : Options) (groupings : List (List String × Option String)) : Options :=
  match groupings.getLast? with
  | none => o
  | some (fields, clause) => { o with groupby := fields, aggregator := clause }

namespace Options

theorem regrouped_append (o : Options) (gs hs : List (List String × Option String)) :
    o.regrouped (gs ++ hs) = (o.regrouped gs).regrouped hs := by
  unfold regrouped
  rw [List.getLast?_append]
  cases hs.getLast? with
  | none => rw [Option.none_or]
  | some h => cases gs.getLast? <;> rfl

-- Shared steps and groupings write different values.
theorem outcome_regrouped (o : Options) (gs : List (List String × Option String))
    (ss : List Step) : (o.regrouped gs).outcome ss = (o.outcome ss).regrouped gs := by
  unfold regrouped
  cases gs.getLast? <;> rfl

end Options

namespace Query

/-- A query after several steps. -/
def outcome (q : Query) (steps : List QueryStep) : Query where
  options := (q.options.outcome (steps.filterMap QueryStep.shared?)).regrouped
    (steps.filterMap QueryStep.grouping?)
  expands := q.expands ++ (steps.filterMap QueryStep.shared?).filterMap Step.expansion?

theorem outcome_append (q : Query) (ss ts : List QueryStep) :
    q.outcome (ss ++ ts) = (q.outcome ss).outcome ts := by
  unfold outcome
  simp only [List.filterMap_append, Options.outcome_append, Options.regrouped_append,
    Options.outcome_regrouped, List.append_assoc]

end Query

namespace Relation

/-- A relation after several steps. -/
def outcome (r : Relation) (steps : List RelationStep) : Relation where
  key := r.key
  strict := r.strict || steps.any RelationStep.isStrict
  options := r.options.outcome (steps.filterMap RelationStep.shared?)
  expands := r.expands ++ (steps.filterMap RelationStep.shared?).filterMap Step.expansion?

theorem outcome_append (r : Relation) (ss ts : List RelationStep) :
    r.outcome (ss ++ ts) = (r.outcome ss).outcome ts := by
  unfold outcome
  simp only [List.filterMap_append, Options.outcome_append, List.append_assoc, List.any_append,
    Bool.or_assoc]

end Relation

/-- The options of a query string that a shared step writes. -/
def Step.writes : Step → SystemOption → Bool
  | .select _, .select => true
  | .filter _, .filter => true
  | .orderBy _, .orderby => true
  | .expand _ _, .expand => true
  | .skip _, .skip => true
  | .take _, .top => true
  | .withCount _, .count => true
  | .paginate _, .top => true
  | .paginate _, .count => true
  | .paginate ⟨_, some (_ + 1), _⟩, .skip => true
  | _, _ => false

/-- The options that a step on a query writes. -/
def QueryStep.writes : QueryStep → SystemOption → Bool
  | .shared s, option => s.writes option
  | .groupBy _ _, .apply => true
  | .groupBy _ _, _ => false

/-- The options that a step on a relation writes. -/
def RelationStep.writes : RelationStep → SystemOption → Bool
  | .shared s, option => s.writes option
  | .strict, _ => false

-- What is collected from a list does not change when elements are left out
-- that give nothing.
theorem filterMap_filter_of_none {α β : Type} {f : α → Option β} {p : α → Bool}
    (h : ∀ a, p a = false → f a = none) (as : List α) :
    (as.filter p).filterMap f = as.filterMap f := by
  rw [List.filterMap_filter]
  refine List.filterMap_congr fun a _ => ?_
  by_cases hp : p a = true
  · rw [if_pos hp]
  · rw [if_neg hp, h a (Bool.eq_false_iff.mpr hp)]

-- Lists that agree on one option agree in what is collected for it.
theorem filterMap_eq_of_filter_eq {α β : Type} {f : α → Option β} {p : α → Bool} {as bs : List α}
    (hnone : ∀ a, p a = false → f a = none) (h : as.filter p = bs.filter p) :
    as.filterMap f = bs.filterMap f := by
  rw [← filterMap_filter_of_none hnone as, h, filterMap_filter_of_none hnone bs]

namespace Step

-- A step that writes no value for an option has none to give.
theorem none_of_not_writes (s : Step) :
    (s.writes .select = false → s.selected? = none) ∧
    (s.writes .filter = false → s.fragment? = none) ∧
    (s.writes .orderby = false → s.sortKey? = none) ∧
    (s.writes .expand = false → s.expansion? = none) ∧
    (s.writes .skip = false → s.skipWritten? = none) ∧
    (s.writes .top = false → s.takeWritten? = none) ∧
    (s.writes .count = false → s.countWritten? = none) := by
  cases s with
  | paginate p =>
      obtain ⟨pageSize, page, count⟩ := p
      rcases page with _ | _ | page <;>
        simp [writes, selected?, fragment?, sortKey?, expansion?, skipWritten?]
  | _ =>
      simp [writes, selected?, fragment?, sortKey?, expansion?, skipWritten?, takeWritten?,
        countWritten?]

end Step

/-- Steps that agree on every option write the same options. -/
theorem Options.outcome_congr {o : Options} {ss ts : List Step}
    (h : ∀ option, ss.filter (·.writes option) = ts.filter (·.writes option)) :
    o.outcome ss = o.outcome ts := by
  have hselect := filterMap_eq_of_filter_eq (fun s => s.none_of_not_writes.1) (h .select)
  have hfilter := filterMap_eq_of_filter_eq (fun s => s.none_of_not_writes.2.1) (h .filter)
  have horderby := filterMap_eq_of_filter_eq (fun s => s.none_of_not_writes.2.2.1) (h .orderby)
  have hskip := filterMap_eq_of_filter_eq (fun s => s.none_of_not_writes.2.2.2.2.1) (h .skip)
  have htake := filterMap_eq_of_filter_eq (fun s => s.none_of_not_writes.2.2.2.2.2.1) (h .top)
  have hcount := filterMap_eq_of_filter_eq (fun s => s.none_of_not_writes.2.2.2.2.2.2) (h .count)
  unfold outcome
  rw [hselect, hfilter, horderby, hskip, htake, hcount]

-- Steps that agree on what they expand add the same relations.
theorem Step.expansions_congr {ss ts : List Step}
    (h : ss.filter (·.writes .expand) = ts.filter (·.writes .expand)) :
    ss.filterMap expansion? = ts.filterMap expansion? :=
  filterMap_eq_of_filter_eq (fun s => s.none_of_not_writes.2.2.2.1) h

-- The shared steps among steps that agree on an option agree on it too.
theorem filter_shared_congr {α : Type} {shared? : α → Option Step}
    {writes : α → SystemOption → Bool} {as bs : List α} {option : SystemOption}
    (hshared : ∀ a s, shared? a = some s → writes a option = s.writes option)
    (h : as.filter (writes · option) = bs.filter (writes · option)) :
    (as.filterMap shared?).filter (·.writes option) =
      (bs.filterMap shared?).filter (·.writes option) := by
  -- Whether the writers are picked before or after the shared steps makes no difference.
  have hpick (cs : List α) : (cs.filterMap shared?).filter (·.writes option) =
      (cs.filter (writes · option)).filterMap shared? := by
    rw [List.filter_filterMap, List.filterMap_filter]
    refine List.filterMap_congr fun c _ => ?_
    cases hc : shared? c with
    | none => rw [Option.filter_none, ite_self]
    | some s => rw [Option.filter_some, hshared c s hc]
  rw [hpick, h, ← hpick]

/-- The outcome of steps on a query does not depend on how steps that write
    different options are interleaved. -/
theorem Query.outcome_congr {q : Query} {ss ts : List QueryStep}
    (h : ∀ option, ss.filter (·.writes option) = ts.filter (·.writes option)) :
    q.outcome ss = q.outcome ts := by
  have hshared (a : QueryStep) (s : Step) (option : SystemOption) (ha : a.shared? = some s) :
      a.writes option = s.writes option := by
    cases a with
    | shared a => rw [Option.some.inj ha.symm]; rfl
    | groupBy fields aggregate => exact absurd ha nofun
  have hsteps (option : SystemOption) := filter_shared_congr (hshared · · option) (h option)
  have hgrouping : ss.filterMap QueryStep.grouping? = ts.filterMap QueryStep.grouping? := by
    refine filterMap_eq_of_filter_eq (fun a ha => ?_) (h .apply)
    cases a with
    | shared a => rfl
    | groupBy fields aggregate => exact absurd ha nofun
  unfold outcome
  rw [Options.outcome_congr hsteps, Step.expansions_congr (hsteps .expand), hgrouping]

/-- The same for steps on a relation, which may also make it strict. -/
theorem Relation.outcome_congr {r : Relation} {ss ts : List RelationStep}
    (h : ∀ option, ss.filter (·.writes option) = ts.filter (·.writes option))
    (hstrict : ss.any RelationStep.isStrict = ts.any RelationStep.isStrict) :
    r.outcome ss = r.outcome ts := by
  have hshared (a : RelationStep) (s : Step) (option : SystemOption) (ha : a.shared? = some s) :
      a.writes option = s.writes option := by
    cases a with
    | shared a => rw [Option.some.inj ha.symm]; rfl
    | strict => exact absurd ha nofun
  have hsteps (option : SystemOption) := filter_shared_congr (hshared · · option) (h option)
  unfold outcome
  rw [Options.outcome_congr hsteps, Step.expansions_congr (hsteps .expand), hstrict]

end OData
