import Mathlib.Data.List.Infix
import OData.Query.Grammar

/-!
# Forests of Relations

Relations branch through a list, so Lean's own induction principle for them
speaks of lists of relations as well. `Relation.induction` is the principle
that is wanted: a property holds of every relation if it passes from the
relations expanded in one to that one.

`Relation.Inside` says that a relation stands somewhere in a forest, at any
depth. Whatever is asked of a query at every depth is asked of the relations
inside its forest.

The text of a relation is put together here from two parts that later proofs
can take separately, the head and the operators. The block is there exactly
when there are operators to write, so a block is never empty and no operator
is lost.

## Main definitions

* `Relation.Inside`: A relation stands somewhere in a forest.
* `Relation.head`: The key with its mark.
* `Relation.block`: The operators between parentheses.

## Theorems

* `Relation.induction`: Induction on the depth of a relation.
* `Relation.forall_inside_cons`: What holds at every depth, tree by tree.
* `Options.mem_parameters_iff`: A parameter is an option with its value.
* `Options.parameters_eq_iff`: Two levels write the same parameters when they
  give every option the same value.
* `Relation.hasOperators_iff`: The guard of the block looks for an operator.
* `Relation.text_eq`: The text of a relation by its parts.
* `Query.infix_text`: A relation at any depth stands in the text of the query.
-/

namespace OData

/-- A relation stands somewhere in a forest. -/
inductive Relation.Inside : Relation → List Relation → Prop
  /-- It is one of the trees. -/
  | here {r : Relation} {rs : List Relation} (h : r ∈ rs) : Inside r rs
  /-- It stands inside one of the trees. -/
  | deeper {r s : Relation} {rs : List Relation} (hs : s ∈ rs) (h : Inside r s.expands) :
      Inside r rs

/-- A property of relations holds of all if it passes from the relations
    expanded in one to that one. -/
theorem Relation.induction {P : Relation → Prop}
    (h : ∀ r : Relation, (∀ s ∈ r.expands, P s) → P r) (r : Relation) : P r :=
  h r fun s _ => Relation.induction h s
termination_by sizeOf r
decreasing_by
  rename_i hs
  -- A member of the list is smaller than the list, and the list than the relation.
  have hlt := List.sizeOf_lt_of_mem hs
  cases r with
  | mk key strict options expands =>
      simp only [mk.sizeOf_spec] at hlt ⊢
      omega

theorem Relation.not_inside_nil (r : Relation) : ¬ r.Inside [] := by
  rintro (⟨h⟩ | ⟨h, _⟩) <;> exact absurd h List.not_mem_nil

@[simp]
theorem Relation.inside_cons_iff {r s : Relation} {rs : List Relation} :
    r.Inside (s :: rs) ↔ r = s ∨ r.Inside s.expands ∨ r.Inside rs := by
  constructor
  -- The tree that it stands in is the first one or a later one.
  · rintro (⟨h⟩ | ⟨ht, h⟩)
    · exact (List.mem_cons.mp h).imp_right fun h => Or.inr (.here h)
    · rcases List.mem_cons.mp ht with rfl | ht
      · exact Or.inr (Or.inl h)
      · exact Or.inr (Or.inr (.deeper ht h))
  · rintro (rfl | h | (⟨h⟩ | ⟨ht, h⟩))
    · exact .here List.mem_cons_self
    · exact .deeper List.mem_cons_self h
    · exact .here (List.mem_cons_of_mem _ h)
    · exact .deeper (List.mem_cons_of_mem _ ht) h

/-- What holds at every depth of a forest, tree by tree. -/
theorem Relation.forall_inside_cons {P : Relation → Prop} {s : Relation} {rs : List Relation} :
    (∀ r : Relation, r.Inside (s :: rs) → P r) ↔
      P s ∧ (∀ r : Relation, r.Inside s.expands → P r) ∧ ∀ r : Relation, r.Inside rs → P r := by
  simp [or_imp, forall_and]

theorem Relation.forall_inside_singleton {P : Relation → Prop} {s : Relation} (hs : P s)
    (h : ∀ r : Relation, r.Inside s.expands → P r) : ∀ r : Relation, r.Inside [s] → P r :=
  forall_inside_cons.mpr ⟨hs, h, fun r hr => absurd hr r.not_inside_nil⟩

namespace Options

variable {g : Grammar} {o o' : Options} {texts texts' : List String}

/-- A parameter is an option of the grammar together with its value. -/
theorem mem_parameters_iff {p : Parameter} :
    p ∈ o.parameters g texts ↔ p.option ∈ g.order ∧ o.value? g texts p.option = some p.value := by
  rw [parameters, List.mem_filterMap]
  constructor
  · rintro ⟨option, hoption, hp⟩
    rw [Option.map_eq_some_iff] at hp
    rcases hp with ⟨value, hvalue, rfl⟩
    exact ⟨hoption, hvalue⟩
  · rintro ⟨hoption, hvalue⟩
    exact ⟨p.option, hoption, by rw [hvalue, Option.map_some]⟩

/-- Two levels write the same parameters when they give every option of the
    grammar the same value. -/
theorem parameters_eq_iff :
    o.parameters g texts = o'.parameters g texts' ↔
      ∀ option ∈ g.order, o.value? g texts option = o'.value? g texts' option := by
  constructor
  · intro h option hoption
    -- A parameter names its option, so a value can be read off the list.
    have hmem (value : String) : o.value? g texts option = some value ↔
        o'.value? g texts' option = some value := by
      have hp : (⟨option, value⟩ : Parameter) ∈ o.parameters g texts ↔
          ⟨option, value⟩ ∈ o'.parameters g texts' := by rw [h]
      rw [mem_parameters_iff, mem_parameters_iff] at hp
      simpa only [hoption, true_and] using hp
    exact Option.ext hmem
  · intro h
    refine List.filterMap_congr fun option hoption => ?_
    rw [h option hoption]

theorem parameters_eq_nil_iff :
    o.parameters g texts = [] ↔ ∀ option ∈ g.order, o.value? g texts option = none := by
  rw [parameters, List.filterMap_eq_nil_iff]
  simp only [Option.map_eq_none_iff]

end Options

@[simp]
theorem listed?_eq_none_iff {sep : String} {texts : List String} :
    listed? sep texts = none ↔ texts = [] := by
  cases texts with
  | nil => exact ⟨fun _ => rfl, fun _ => rfl⟩
  | cons t ts => exact ⟨nofun, nofun⟩

theorem listed?_eq_some_iff {sep value : String} {texts : List String} :
    listed? sep texts = some value ↔ texts ≠ [] ∧ sep.intercalate texts = value := by
  cases texts with
  | nil => exact ⟨nofun, fun h => absurd rfl h.1⟩
  | cons t ts => exact ⟨fun h => ⟨nofun, Option.some.inj h⟩, fun h => congrArg some h.2⟩

@[simp]
theorem Filter.conjoin_eq_none_iff {fs : List Filter} : conjoin fs = none ↔ fs = [] := by
  match fs with
  | [] => exact ⟨fun _ => rfl, fun _ => rfl⟩
  | [_] => exact ⟨nofun, nofun⟩
  | _ :: _ :: _ => exact ⟨nofun, nofun⟩

namespace Relation

/-- The key, and the mark of a strict relation. -/
def head (r : Relation) : String :=
  r.key ++ (if r.strict then "!" else "")

/-- The operators with semicolons between them, in parentheses. -/
def block (r : Relation) : String :=
  "(" ++ ";".intercalate (r.operators.map Parameter.text) ++ ")"

theorem operators_eq (r : Relation) :
    r.operators = r.options.parameters .block (r.expands.map text) := by
  simp [operators]

/-- The guard of the block looks at the fields of a query, one by one. It
    agrees with the list of operators, since a block can write each of
    them. -/
theorem hasOperators_iff (r : Relation) : r.query.hasOperators = true ↔ r.operators ≠ [] := by
  -- Field by field: an option of a block has no value exactly when its field is unset.
  have hnone : r.operators = [] ↔ r.query.hasOperators = false := by
    rw [operators_eq, Options.parameters_eq_nil_iff]
    simp only [Grammar.block, List.forall_mem_cons, List.not_mem_nil, false_implies,
      implies_true, and_true, Options.value?, Option.map_eq_none_iff, listed?_eq_none_iff,
      Filter.conjoin_eq_none_iff, List.map_eq_nil_iff, Query.hasOperators, query,
      Bool.or_eq_false_iff, Bool.not_eq_false', List.isEmpty_iff, Option.isSome_eq_false_iff,
      Option.isNone_iff_eq_none, beq_eq_false_iff_ne, ite_eq_right_iff, reduceCtorEq, imp_false]
    grind
  rw [ne_eq, hnone, Bool.not_eq_false]

/-- The text of a relation: its head, and a block if it has operators. -/
theorem text_eq (r : Relation) :
    r.text = if r.operators = [] then r.head else r.head ++ r.block := by
  have hguard := hasOperators_iff r
  cases r with
  | mk key strict options expands =>
      simp only [text, query] at hguard ⊢
      by_cases hops : operators ⟨key, strict, options, expands⟩ = []
      · have hno : ¬ Query.hasOperators ⟨options, expands⟩ = true := fun h => hguard.mp h hops
        rw [if_neg hno, if_pos hops]
        rfl
      · rw [if_pos (hguard.mpr hops), if_neg hops]
        simp only [head, block, operators, String.append_assoc]

end Relation

theorem SystemOption.key_injective {a b : SystemOption} (h : a.key = b.key) : a = b := by
  cases a <;> cases b <;> first | rfl | exact absurd h (by decide)

-- Parameters stand behind a mark, so nothing is written only for none.
theorem Query.empty_ne_mark (t : String) : "" ≠ "?" ++ t := by
  intro h
  have hlen := congrArg String.length h
  have hone : "?".length = 1 := rfl
  rw [String.length_append, hone, String.length_empty] at hlen
  omega

/-- Every piece of a join stands in it. -/
theorem infix_intercalate {sep t : String} {ts : List String} (h : t ∈ ts) :
    t.toList <:+: (sep.intercalate ts).toList := by
  induction ts with
  | nil => exact absurd h List.not_mem_nil
  | cons u us ih =>
      cases us with
      | nil =>
          rw [List.mem_singleton.mp h, String.intercalate_singleton]
      | cons v vs =>
          rw [String.intercalate_cons_cons, String.toList_append, String.toList_append]
          rcases List.mem_cons.mp h with rfl | h
          · rw [List.append_assoc]
            exact (List.prefix_append _ _).isInfix
          · exact (ih h).trans (List.suffix_append _ _).isInfix

/-- The operators of a relation stand in its text. -/
theorem Relation.infix_of_operator {r : Relation} {p : Parameter} (h : p ∈ r.operators) :
    p.text.toList <:+: r.text.toList := by
  have hjoined : p.text.toList <:+: (";".intercalate (r.operators.map Parameter.text)).toList :=
    infix_intercalate (List.mem_map_of_mem h)
  have hblock : (";".intercalate (r.operators.map Parameter.text)).toList <:+: r.block.toList := by
    simp only [block, String.toList_append]
    exact List.infix_append _ _ _
  rw [text_eq, if_neg (List.ne_nil_of_mem h), String.toList_append]
  exact (hjoined.trans hblock).trans (List.suffix_append _ _).isInfix

/-- The parameters of a query stand in its text. -/
theorem Query.infix_of_param {q : Query} {p : Parameter} (h : p ∈ q.params) :
    p.text.toList <:+: q.text.toList := by
  have hjoined : p.text.toList <:+: ("&".intercalate (q.params.map Parameter.text)).toList :=
    infix_intercalate (List.mem_map_of_mem h)
  have hne : ¬ q.params.isEmpty = true := fun hempty =>
    List.ne_nil_of_mem h (List.isEmpty_iff.mp hempty)
  rw [text, if_neg hne, String.toList_append]
  exact hjoined.trans (List.suffix_append _ _).isInfix

theorem Options.value?_expand {g : Grammar} {o : Options} {texts : List String} (h : texts ≠ []) :
    o.value? g texts .expand = some (g.expandSeparator.intercalate texts) :=
  listed?_eq_some_iff.mpr ⟨h, rfl⟩

/-- The relations of a forest stand in the value it is written as. -/
theorem Parameter.infix_of_expand {sep t : String} {texts : List String} (h : t ∈ texts) :
    t.toList <:+: (Parameter.text ⟨.expand, sep.intercalate texts⟩).toList := by
  rw [text, String.toList_append]
  exact (infix_intercalate h).trans (List.suffix_append _ _).isInfix

/-- A relation at any depth stands in the text of some tree of the forest. -/
theorem Relation.Inside.infix_text {r : Relation} {rs : List Relation} (h : r.Inside rs) :
    ∃ s ∈ rs, r.text.toList <:+: s.text.toList := by
  induction h with
  | here h => exact ⟨_, h, List.infix_rfl⟩
  | @deeper s rs hs _ ih =>
      -- One level up, the text of the tree is part of an operator of the one around it.
      rcases ih with ⟨u, hu, hru⟩
      have hmem : u.text ∈ s.expands.map Relation.text := List.mem_map_of_mem hu
      have hexpand : ⟨.expand, ",".intercalate (s.expands.map Relation.text)⟩ ∈ s.operators := by
        rw [Relation.operators_eq, Options.mem_parameters_iff]
        exact ⟨(by decide : .expand ∈ Grammar.block.order),
          Options.value?_expand (List.ne_nil_of_mem hmem)⟩
      exact ⟨s, hs, (hru.trans (Parameter.infix_of_expand hmem)).trans (infix_of_operator hexpand)⟩

/-- A relation at any depth stands in the text of the query. -/
theorem Query.infix_text {q : Query} {r : Relation} (h : r.Inside q.expands) :
    r.text.toList <:+: q.text.toList := by
  rcases h.infix_text with ⟨s, hs, hrs⟩
  have hmem : s.text ∈ q.expands.map Relation.text := List.mem_map_of_mem hs
  have hexpand : ⟨.expand, ",".intercalate (q.expands.map Relation.text)⟩ ∈ q.params := by
    rw [params, Relation.texts_eq_map, Options.mem_parameters_iff]
    exact ⟨(by decide : .expand ∈ Grammar.topLevel.order),
      Options.value?_expand (List.ne_nil_of_mem hmem)⟩
  exact (hrs.trans (Parameter.infix_of_expand hmem)).trans (infix_of_param hexpand)

end OData
