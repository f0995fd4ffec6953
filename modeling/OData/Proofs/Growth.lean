import Mathlib.Data.List.Infix
import OData.Proofs.Outcome
import OData.Proofs.Violation
import OData.Proofs.Wrapping

/-!
# Growing Queries

Building only ever adds to a query, the values that are overwritten apart. Of
these validation looks at one, the number of items to take. As long as that
one is left alone, a later state of a query extends an earlier one: every list
that is held against a cap begins as it did before.

More entries never bring a query back within its limits. For lists that are
counted this is plain. The filter is not counted but measured, and its first
fragment is written in two ways, bare while it is the only one and perhaps
between parentheses as soon as another one follows. Parentheses only add to its
length. New relations stand behind the old ones, which are checked at the depth
they had, and the depth of the forest is checked as before.

The violation that is reported may be another one, since a new value can break
a cap that is looked at earlier.

## Main definitions

* `Query.Extends`: A query asks for more than another, in the same places.

## Theorems

* `Filter.length_conjoin_le`: Joined with more fragments, a filter is no
  shorter.
* `Query.extends_apply`, `Query.extends_applyAll`: Steps extend a query.
* `Query.Extends.root_holds`, `Query.Extends.validate_eq_ok`: What is extended
  is within all limits that the extension is within.
* `rejected_however_extended`: A rejected query stays rejected.
-/

namespace OData

namespace Filter

theorem length_le_wrapIfCompound (f : Filter) : f.text.length ≤ f.wrapIfCompound.text.length := by
  rw [text_wrapIfCompound]
  split
  · rw [String.length_append, String.length_append]
    omega
  · exact Nat.le_refl _

/-- Joined with more fragments behind it, a condition is no shorter. -/
theorem length_conjoin_le {fs gs : List Filter} {f : Filter} (hpre : fs <+: gs)
    (hf : conjoin fs = some f) : ∃ g, conjoin gs = some g ∧ f.text.length ≤ g.text.length := by
  rcases hpre with ⟨more, rfl⟩
  cases fs with
  | nil => exact absurd hf nofun
  | cons first fs =>
      refine ⟨_, conjoin_cons first (fs ++ more), ?_⟩
      rw [conjoin_cons, Option.some.injEq] at hf
      have hfirst := length_le_wrapIfCompound first
      rw [← hf]
      simp only [conjuncts_append, String.length_append]
      -- Only the first fragment may be written in another way than before.
      by_cases hnone : fs ++ more = []
      · rw [if_pos hnone, if_pos (List.append_eq_nil_iff.mp hnone).1]
        omega
      · rw [if_neg hnone]
        split <;> omega

end Filter

namespace Query

variable {ls : Limits} {q q' q'' : Query}

/-- A query asks for what another one asks for, and perhaps for more behind
    it. The number of items to take is the same. -/
structure Extends (q' q : Query) : Prop where
  take : q'.options.take = q.options.take
  select : q.options.select <+: q'.options.select
  filters : q.options.filters <+: q'.options.filters
  orderby : q.options.orderby <+: q'.options.orderby
  expands : q.expands <+: q'.expands

theorem Extends.refl (q : Query) : q.Extends q :=
  ⟨rfl, List.prefix_rfl, List.prefix_rfl, List.prefix_rfl, List.prefix_rfl⟩

theorem Extends.trans (h : q''.Extends q') (h' : q'.Extends q) : q''.Extends q where
  take := h.take.trans h'.take
  select := h'.select.trans h.select
  filters := h'.filters.trans h.filters
  orderby := h'.orderby.trans h.orderby
  expands := h'.expands.trans h.expands

/-- A step extends a query unless it writes the number of items to take. -/
theorem extends_apply {s : QueryStep} (h : s.writes .top = false) (q : Query) :
    (q.apply s).Extends q := by
  cases s with
  | shared s =>
      -- What a step adds comes last, and what it does not add to stays.
      refine ⟨?_, ?_, ?_, ?_, List.prefix_append _ _⟩
      · cases s with
        | take n => exact absurd h nofun
        | paginate request => exact absurd h nofun
        | _ => rfl
      · cases s with
        | select fields => exact List.prefix_append _ _
        | _ => exact List.prefix_rfl
      · cases s with
        | filter condition => exact List.prefix_append _ _
        | _ => exact List.prefix_rfl
      · cases s with
        | orderBy key => exact List.prefix_append _ _
        | _ => exact List.prefix_rfl
  | groupBy fields aggregate =>
      exact ⟨rfl, List.prefix_rfl, List.prefix_rfl, List.prefix_rfl, List.prefix_rfl⟩

/-- So does a run of such steps. -/
theorem extends_applyAll {steps : List QueryStep} (h : ∀ s ∈ steps, s.writes .top = false)
    (q : Query) : (q.applyAll steps).Extends q := by
  induction steps generalizing q with
  | nil => exact .refl q
  | cons s ss ih =>
      rw [List.forall_mem_cons] at h
      exact (ih h.2 (q.apply s)).trans (extends_apply h.1 q)

/-- The checks on the top level hold if those on an extension do. -/
theorem Extends.root_holds (h : q'.Extends q)
    (hq' : ∀ c ∈ Level.checks ⟨0, q'⟩, c.Holds ls) : ∀ c ∈ Level.checks ⟨0, q⟩, c.Holds ls := by
  rcases Level.checks_hold_iff.mp hq' with ⟨htop, horderby, hselect, hfilter, hexpand⟩
  refine Level.checks_hold_iff.mpr ⟨?_, ?_, ?_, ?_, ?_⟩
  · intro n hn
    exact htop n (h.take.trans hn)
  · exact h.orderby.length_le.trans horderby
  · exact h.select.length_le.trans hselect
  · intro f hf
    rcases Filter.length_conjoin_le h.filters hf with ⟨g, hg, hle⟩
    exact hle.trans (hfilter g hg)
  · intro hne
    exact hexpand fun hnil => hne (List.prefix_nil.mp (hnil ▸ h.expands))

/-- What is extended is within all limits that the extension is within. -/
theorem Extends.validate_eq_ok (h : q'.Extends q) (hq' : ls.validate q' = .ok ()) :
    ls.validate q = .ok () := by
  rw [Limits.validate_eq_ok_iff, levels, List.forall_mem_cons] at hq' ⊢
  refine ⟨h.root_holds hq'.1, fun l hl => hq'.2 l ?_⟩
  -- The relations are among those of the extension, and at the same depth.
  rw [Relation.forestLevels_eq_flatMap] at hl ⊢
  exact (h.expands.flatMap _).subset hl

end Query

/-- A rejected query stays rejected as it grows. Steps of any kind and number
    keep it out of its limits, those apart that write the number of items to
    take at the top level. -/
theorem rejected_however_extended (ls : Limits) (q : Query) {v : Violation}
    (h : ls.validate q = .error v) (steps : List QueryStep)
    (hsteps : ∀ s ∈ steps, s.writes .top = false) :
    ∃ v', ls.validate (q.applyAll steps) = .error v' := by
  cases hgrown : ls.validate (q.applyAll steps) with
  | error v' => exact ⟨v', rfl⟩
  | ok u =>
      have hok := (Query.extends_applyAll hsteps q).validate_eq_ok hgrown
      exact absurd (h.symm.trans hok) nofun

/-- A filter that is too long is joined with another one, and the cap that is
    looked at first is broken later. What a relation takes does not matter. -/
theorem other_violation_reported_later :
    let ls : Limits := { Limits.default with maxFilterLength := 10, maxOrderbyFields := 1 }
    let q : Query := { options := { filters := [⟨"a eq 1 or b"⟩], orderby := ["id"] } }
    let posts : List RelationStep := [.shared (.take 5), .strict]
    let steps : List QueryStep :=
      [.shared (.filter (.leaf (.raw "c"))), .shared (.expand (.text "posts") posts),
        .shared (.orderBy ⟨.text "name", some .desc⟩), .groupBy [.text "kind"] .empty]
    ls.validate q = .error (.filterTooLong 11 10) ∧
      (∃ v, ls.validate (q.applyAll steps) = .error v) ∧
      ls.validate (q.applyAll steps) = .error (.tooManyOrderbyFields 2 1) := by
  intro ls q posts steps
  have hbefore : ls.validate q = .error (.filterTooLong 11 10) := rfl
  have hsteps : ∀ s ∈ steps, s.writes .top = false := by
    intro s hs
    simp only [steps, List.mem_cons, List.not_mem_nil, or_false] at hs
    rcases hs with rfl | rfl | rfl | rfl <;> rfl
  exact ⟨hbefore, rejected_however_extended ls q hbefore steps hsteps, rfl⟩

end OData
