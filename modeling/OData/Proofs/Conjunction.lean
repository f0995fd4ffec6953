import Mathlib.Data.List.Forall2
import OData.Proofs.Precedence
import OData.Query.Step

/-!
# Conjunction of Filters

Filters that are asked for one by one must all hold. Their fragments are joined
with `and`, and here the first one is treated like the others: every fragment
becomes an operand, so each is read as one operand of the chain, and what is
read is the conjunction of what the fragments are read as, in order. A
fragment that begins with a disjunction in the open is no exception, which
sets this way of joining apart from `Filter.and`.

A single fragment is not wrapped, and needs no wrapping, since nothing is
joined to it.

The joined text is what a query and a relation write as their filter, at any
depth.

## Theorems

* `Reading.reads_conjuncts`: A chain of operands is read as a conjunction.
* `Reading.exists_conjoin_reads`: Joined fragments are read as the conjunction
  of their readings.
* `Query.filters_applyAll`, `Relation.filters_applyAll`: One fragment for each
  call.
* `Options.filter_mem_parameters_iff`: The filter that is written.
* `separate_filters_read_as_conjunction`: All of it together.
-/

namespace OData

open Text Reading

/-- The expressions that a list of trees of predicates is read as. -/
abbrev readings (es : List (Expr Predicate)) : List (Expr String) :=
  es.map Expr.reading

namespace Reading

/-- Operands behind a conjunction are taken in one by one, to the left. -/
theorem reads_conjuncts (es : List (Expr Predicate)) (h : ∀ e ∈ es, e.Plain) {s : String}
    {f : Expr String} (hs : Reads .conjunction s f) :
    Reads .conjunction (s ++ Filter.conjuncts (es.map Expr.fragment))
      ((readings es).foldl .and f) := by
  induction es generalizing s f with
  | nil =>
      rw [List.map_nil, Filter.conjuncts_nil, String.append_empty]
      exact hs
  | cons e es ih =>
      have hoperand := (reads_fragment_and_operand (h e List.mem_cons_self)).2
      rw [List.map_cons, Filter.conjuncts_cons, ← String.append_assoc, ← String.append_assoc]
      -- The first operand goes over to the part that has been read.
      exact ih (fun e' he' => h e' (List.mem_cons_of_mem _ he')) (.and hs hoperand)

/-- Joined fragments are read as the conjunction of their readings. -/
theorem exists_conjoin_reads {es : List (Expr Predicate)} (hne : es ≠ [])
    (h : ∀ e ∈ es, e.Plain) :
    ∃ f r, Filter.conjoin (es.map Expr.fragment) = some f ∧
      Expr.leftAnd? (readings es) = some r ∧ ReadsAs f.text r := by
  match es with
  | [] => exact absurd rfl hne
  | [e] =>
      have hread := (readsAs_fragment_iff (h e List.mem_cons_self)).mpr rfl
      exact ⟨e.fragment, e.reading, rfl, rfl, hread⟩
  | e :: e' :: es =>
      -- The first operand begins the chain, the others are added to it.
      have hoperand := (reads_fragment_and_operand (h e List.mem_cons_self)).2
      have hchain := reads_conjuncts (e' :: es) (fun d hd => h d (List.mem_cons_of_mem _ hd))
        (.ofOperand hoperand)
      exact ⟨_, _, Filter.conjoin_cons e.fragment ((e' :: es).map Expr.fragment), rfl,
        .ofConjunction hchain⟩

end Reading

/-- A filter step with a tree of predicates. -/
abbrev Step.filterBy (e : Expr Predicate) : Step :=
  .filter (e.map .predicate)

@[simp]
theorem Options.filters_edit_filterBy (o : Options) (e : Expr Predicate) :
    (o.edit (.filterBy e)).filters = o.filters ++ [e.fragment] := by
  simp only [edit, Condition.fragment, Expr.toFilter_map, Atom.toFilter]

/-- Filter steps add one fragment each, in order. -/
@[simp]
theorem Query.filters_applyAll (q : Query) (es : List (Expr Predicate)) :
    (q.applyAll (es.map fun e => .shared (.filterBy e))).options.filters =
      q.options.filters ++ es.map Expr.fragment := by
  induction es generalizing q with
  | nil => rw [List.map_nil, List.map_nil, List.append_nil]; rfl
  | cons e es ih =>
      rw [List.map_cons, applyAll, List.foldl_cons]
      have hrest := ih (q.apply (.shared (.filterBy e)))
      rw [applyAll] at hrest
      rw [hrest, apply, Options.filters_edit_filterBy, List.append_assoc, List.singleton_append,
        List.map_cons]

/-- Filter steps add one fragment each, in order. -/
@[simp]
theorem Relation.filters_applyAll (r : Relation) (es : List (Expr Predicate)) :
    (r.applyAll (es.map fun e => .shared (.filterBy e))).options.filters =
      r.options.filters ++ es.map Expr.fragment := by
  induction es generalizing r with
  | nil => rw [List.map_nil, List.map_nil, List.append_nil, applyAll]
  | cons e es ih =>
      simp [applyAll, ih, apply]

/-- The filter that is written, under any grammar that writes one. -/
theorem Options.filter_mem_parameters_iff {g : Grammar} {o : Options} {texts : List String}
    {f : Filter} (hg : .filter ∈ g.order) (h : Filter.conjoin o.filters = some f)
    (value : String) : ⟨.filter, value⟩ ∈ o.parameters g texts ↔ value = f.text := by
  rw [mem_parameters_iff]
  simp only [value?, h, Option.map_some, Option.some.injEq, eq_comm, hg, true_and]

@[simp]
theorem Parameter.text_filter (value : String) :
    Parameter.text ⟨.filter, value⟩ = "$filter=" ++ value := by
  have hkey : "$filter=" = "$filter" ++ "=" := rfl
  rw [hkey]
  rfl

/-- Filters asked for one by one are read as a conjunction. Of any trees of
    predicates the joined fragments have one reading, the readings of the
    fragments conjoined to the left in the order of the calls, and this is the
    filter that is written, by a query and by its relations at every depth. -/
theorem separate_filters_read_as_conjunction (es : List (Expr Predicate)) (hne : es ≠ [])
    (h : ∀ e ∈ es, e.Plain) :
    ∃ f rs,
      Filter.conjoin (es.map Expr.fragment) = some f ∧
      List.Forall₂ (fun e r => ∀ r', ReadsAs e.fragment.text r' ↔ r' = r) es rs ∧
      (∀ r, ReadsAs f.text r ↔ Expr.leftAnd? rs = some r) ∧
      (∀ q : Query, (q.applyAll (es.map fun e => .shared (.filterBy e))).options.filters =
        q.options.filters ++ es.map Expr.fragment) ∧
      (∀ r : Relation, (r.applyAll (es.map fun e => .shared (.filterBy e))).options.filters =
        r.options.filters ++ es.map Expr.fragment) ∧
      (∀ q : Query, q.options.filters = es.map Expr.fragment →
        (∀ value, ⟨.filter, value⟩ ∈ q.params ↔ value = f.text) ∧
        ("$filter=" ++ f.text).toList <:+: q.text.toList) ∧
      ∀ (q : Query) (r : Relation), r.Inside q.expands →
        r.options.filters = es.map Expr.fragment →
          (∀ value, ⟨.filter, value⟩ ∈ r.operators ↔ value = f.text) ∧
          ("$filter=" ++ f.text).toList <:+: r.text.toList ∧
          r.text.toList <:+: q.text.toList := by
  rcases exists_conjoin_reads hne h with ⟨f, r, hf, hr, hread⟩
  refine ⟨f, readings es, hf, ?_, ?_, ?_, ?_, ?_, ?_⟩
  · rw [List.forall₂_map_right_iff, List.forall₂_same]
    exact fun e he r' => readsAs_fragment_iff (h e he)
  · intro r'
    rw [hread.iff_eq, hr, Option.some.injEq, eq_comm]
  · exact fun q => q.filters_applyAll es
  · exact fun r => r.filters_applyAll es
  · intro q hq
    have hmem (value : String) : ⟨.filter, value⟩ ∈ q.params ↔ value = f.text :=
      Options.filter_mem_parameters_iff (by decide) (hq ▸ hf) value
    rw [← Parameter.text_filter]
    exact ⟨hmem, Query.infix_of_param ((hmem f.text).mpr rfl)⟩
  · intro q r hin hfilters
    have hmem (value : String) : ⟨.filter, value⟩ ∈ r.operators ↔ value = f.text :=
      Options.filter_mem_parameters_iff (by decide) (hfilters ▸ hf) value
    rw [← Parameter.text_filter]
    exact ⟨hmem, Relation.infix_of_operator ((hmem f.text).mpr rfl), Query.infix_text hin⟩

/-- A fragment that begins with a disjunction in the open, asked for first. -/
theorem open_disjunction_read_as_conjunct :
    let tune : Expr Predicate := .leaf (.compare (.text "name") .eq (.string "rock and roll's"))
    let known : Expr Predicate := .leaf (.isIn (.text "genre/id") [.null, .string " or ("])
    let es : List (Expr Predicate) := [.or tune known, .and (.or known tune) known, tune]
    (∀ e ∈ es, e.Plain) ∧
      ∃ f rs,
        Filter.conjoin (es.map Expr.fragment) = some f ∧
        List.Forall₂ (fun e r => ∀ r', ReadsAs e.fragment.text r' ↔ r' = r) es rs ∧
        ∀ r, ReadsAs f.text r ↔ Expr.leftAnd? rs = some r := by
  intro tune known es
  have hplain : ∀ e ∈ es, e.Plain := by decide
  rcases separate_filters_read_as_conjunction es nofun hplain with ⟨f, rs, hf, hrs, hread, _⟩
  exact ⟨hplain, f, rs, hf, hrs, hread⟩

end OData
