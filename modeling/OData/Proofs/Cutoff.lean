import Mathlib.Data.List.Forall2
import OData.Proofs.Violation

/-!
# The Depth Cutoff

Validation never looks at a relation that is expanded too deeply. The depth is
checked where relations are expanded and before any of them is visited, so the
walk ends there. A query may hide a forest of any size below its greatest depth,
and the answer does not depend on it.

The first half of that is a statement about two queries. `Query.SameDownTo` says
that they differ at most below some depth, and that a level at that depth
expands something in both or in neither. Queries that are the same down to the
greatest depth get the same answer.

The second half says what the answer means when it is that relations are nested
too deeply. The depth that is reported is one more than allowed, never more. A
level at the greatest depth is to blame, and the levels in front of it were all
visited and keep every cap. That none of them is deeper follows from the
order of the levels, in which each stands behind the one that expands it.

## Main definitions

* `Query.SameDownTo`: Two queries differ at most below some depth.

## Theorems

* `Limits.checkRelation_congr`: The walk goes no deeper than allowed.
* `Limits.validate_congr`: Neither does validation.
* `Limits.validate_eq_error_iff`: The level at which validation fails.
* `Limits.forM_checks_eq_tooDeep_iff`: When a level is found to expand too
  deeply.
* `Limits.depth_le_of_before`: A level is visited only if it is not too deep.
* `depth_cap_cuts_the_walk`: Both halves together.
-/

namespace OData

/-- Two queries are the same down to a depth. At that depth only whether a level
    expands anything is compared, and not what it expands. -/
def Query.SameDownTo : Nat → Query → Query → Prop
  | 0, q, q' => q.options = q'.options ∧ (q.expands = [] ↔ q'.expands = [])
  | n + 1, q, q' =>
    q.options = q'.options ∧
      List.Forall₂ (fun r r' => r.key = r'.key ∧ r.strict = r'.strict ∧
        SameDownTo n r.query r'.query) q.expands q'.expands

namespace Limits

variable {ls : Limits} {depth : Nat}

/-- The check of the depth does not look at the relations. -/
theorem checkDepth_congr {rs rs' : List Relation} (h : rs = [] ↔ rs' = []) :
    ls.checkDepth depth rs = ls.checkDepth depth rs' := by
  simp only [checkDepth_eq, h]

theorem checkDepth_of_lt {rs : List Relation} (hrs : rs ≠ []) (h : ls.maxExpandDepth < depth) :
    ls.checkDepth depth rs = .error (.expandTooDeep depth ls.maxExpandDepth) := by
  rw [checkDepth, if_pos]
  exact ⟨by rw [List.isEmpty_eq_false_iff.mpr hrs]; rfl, h⟩

theorem checkRelations_congr {rs rs' : List Relation}
    (h : List.Forall₂ (fun r r' => ls.checkRelation depth r = ls.checkRelation depth r') rs rs') :
    ls.checkRelations depth rs = ls.checkRelations depth rs' := by
  induction h with
  | nil => rfl
  | cons hr _ ih => rw [checkRelations, checkRelations, hr, ih]

-- A relation is checked like the query it scopes, whatever its name.
theorem checkRelation_eq_query (ls : Limits) (depth : Nat) (r : Relation) :
    ls.checkRelation depth r = (do
      ls.checkOptions r.query.options
      ls.checkDepth (depth + 1) r.query.expands
      ls.checkRelations (depth + 1) r.query.expands) := by
  cases r
  rw [checkRelation]
  rfl

/-- The walk goes no deeper than allowed. Relations that differ further down are
    not told apart. -/
theorem checkRelation_congr {n : Nat} {r r' : Relation} (hdepth : depth + n = ls.maxExpandDepth)
    (h : r.query.SameDownTo n r'.query) : ls.checkRelation depth r = ls.checkRelation depth r' := by
  -- The induction is on how far down the walk may still go.
  induction n generalizing depth r r' with
  | zero =>
      rcases h with ⟨hoptions, hexpands⟩
      rw [checkRelation_eq_query, checkRelation_eq_query, hoptions]
      by_cases hnil : r.query.expands = []
      · rw [hnil, hexpands.mp hnil]
      · -- Something is expanded in both, and the walk ends before it is looked at.
        have htoo : ls.maxExpandDepth < depth + 1 := by omega
        rw [checkDepth_of_lt hnil htoo, checkDepth_of_lt (mt hexpands.mpr hnil) htoo]
        rfl
  | succ n ih =>
      rcases h with ⟨hoptions, hexpands⟩
      have hnil : r.query.expands = [] ↔ r'.query.expands = [] := by
        rw [← List.length_eq_zero_iff, ← List.length_eq_zero_iff, hexpands.length_eq]
      have hchecks : List.Forall₂ (fun s s' =>
          ls.checkRelation (depth + 1) s = ls.checkRelation (depth + 1) s')
          r.query.expands r'.query.expands :=
        hexpands.imp fun s s' hs => ih (by omega) hs.2.2
      rw [checkRelation_eq_query, checkRelation_eq_query, hoptions, checkDepth_congr hnil,
        checkRelations_congr hchecks]

/-- Queries that are the same down to the greatest depth get the same answer. -/
theorem validate_congr {q q' : Query} (h : q.SameDownTo ls.maxExpandDepth q') :
    ls.validate q = ls.validate q' := by
  -- A query is checked like a relation at depth zero.
  have hwalk : ls.checkRelation 0 ⟨"", false, q.options, q.expands⟩ =
      ls.checkRelation 0 ⟨"", false, q'.options, q'.expands⟩ :=
    checkRelation_congr (Nat.zero_add _) h
  exact hwalk

variable {q : Query} {l : Level} {before after : List Level} {v : Violation}

/-- Validation fails at the first level that does not keep every cap. -/
theorem validate_eq_error_iff :
    ls.validate q = .error v ↔
      ∃ before l after, q.levels = before ++ l :: after ∧
        (∀ b ∈ before, ∀ c ∈ b.checks, c.Holds ls) ∧ forM l.checks ls.enforce = .error v := by
  rw [validate_eq, Query.checks, forM_flatMap, forM_eq_error_iff]
  simp

-- Only a depth is reported to be too deep.
theorem violation_eq_tooDeep_iff {c : Check} {found max : Nat} :
    c.violation ls = .expandTooDeep found max ↔
      c.limit = .expand ∧ found = c.found ∧ max = ls.maxExpandDepth := by
  unfold Check.violation
  cases c.limit with
  | expand => simp only [Violation.expandTooDeep.injEq, true_and, eq_comm]
  | _ => simp only [reduceCtorEq, false_and]

theorem limit_ne_expand_of_mem_checks {o : Options} {c : Check} (h : c ∈ o.checks) :
    c.limit ≠ .expand := by
  unfold Options.checks at h
  simp only [List.mem_append, Option.mem_toList, Option.map_eq_some_iff, List.mem_cons,
    List.not_mem_nil, or_false] at h
  rcases h with (⟨n, _, rfl⟩ | rfl | rfl) | ⟨f, _, rfl⟩ <;> exact nofun

/-- A level is found to expand too deeply if nothing else is wrong with it, and
    it stands at the greatest depth or below. -/
theorem forM_checks_eq_tooDeep_iff {found max : Nat} :
    forM l.checks ls.enforce = .error (.expandTooDeep found max) ↔
      (∀ c ∈ l.query.options.checks, c.Holds ls) ∧ l.query.expands ≠ [] ∧
        ls.maxExpandDepth < l.depth + 1 ∧ found = l.depth + 1 ∧ max = ls.maxExpandDepth := by
  rw [Level.checks, List.forM_append]
  cases hoptions : forM l.query.options.checks ls.enforce with
  | error w =>
      -- The options break another cap, which is then what is reported.
      rcases forM_enforce_eq_error_iff.mp hoptions with ⟨before, c, after, hc, _, hfails, rfl⟩
      have hmem : c ∈ l.query.options.checks := hc ▸ List.mem_append_cons_self
      constructor
      · intro h
        have hlimit := (violation_eq_tooDeep_iff.mp (Except.error.inj h)).1
        exact absurd hlimit (limit_ne_expand_of_mem_checks hmem)
      · rintro ⟨hholds, _⟩
        exact absurd (hholds c hmem) hfails
  | ok u =>
      have hholds := forM_enforce_eq_ok_iff.mp hoptions
      by_cases hnil : l.query.expands = []
      · rw [if_pos hnil, List.forM_nil]
        refine iff_of_false (fun h => ?_) fun h => h.2.1 hnil
        cases h
      · rw [if_neg hnil, List.forM_cons, List.forM_nil, bind_pure_unit]
        constructor
        · intro h
          rcases enforce_eq_error_iff.mp h with ⟨hfails, hv⟩
          have hfound := (violation_eq_tooDeep_iff.mp hv.symm).2
          exact ⟨hholds, hnil, Nat.not_le.mp hfails, hfound⟩
        · rintro ⟨_, _, hlt, rfl, rfl⟩
          exact enforce_eq_error_iff.mpr ⟨Nat.not_le.mpr hlt, rfl⟩

/-- A level is not too deep if the levels in front of it keep every cap. -/
theorem depth_le_of_before (hlevels : q.levels = before ++ l :: after)
    (hbefore : ∀ b ∈ before, ∀ c ∈ b.checks, c.Holds ls) : l.depth ≤ ls.maxExpandDepth := by
  rcases Query.exists_expander_before hlevels with rfl | ⟨p, hp, s, hs, rfl⟩
  · exact Nat.zero_le _
  · -- The level that expands it has checked its depth.
    have hexpand := (Level.checks_hold_iff.mp (hbefore p hp)).2.2.2.2
    exact hexpand (List.ne_nil_of_mem hs)

end Limits

/-- The depth cap cuts the walk. Queries that are the same down to the greatest
    depth get the same answer. If the answer is that relations are nested too
    deeply, then one level deeper than allowed is what is reported, some level
    at the greatest depth expands a relation, and nothing that was visited
    before is too deep or breaks any other cap. -/
theorem depth_cap_cuts_the_walk (ls : Limits) (q : Query) :
    (∀ q', q.SameDownTo ls.maxExpandDepth q' → ls.validate q' = ls.validate q) ∧
    ∀ depth max, ls.validate q = .error (.expandTooDeep depth max) ↔
      max = ls.maxExpandDepth ∧ depth = ls.maxExpandDepth + 1 ∧
        ∃ visited l rest, q.levels = visited ++ l :: rest ∧
          (∀ b ∈ visited, b.depth ≤ ls.maxExpandDepth ∧ ∀ c ∈ b.checks, c.Holds ls) ∧
          (∀ c ∈ l.query.options.checks, c.Holds ls) ∧ l.depth = ls.maxExpandDepth ∧
          ∃ r ∈ l.query.expands, ⟨depth, r.query⟩ ∈ q.levels := by
  refine ⟨fun q' h => (Limits.validate_congr h).symm, fun depth max => ?_⟩
  rw [Limits.validate_eq_error_iff]
  simp only [Limits.forM_checks_eq_tooDeep_iff]
  constructor
  · rintro ⟨visited, l, rest, hlevels, hvisited, hoptions, hne, hlt, rfl, rfl⟩
    have hdepth : l.depth = ls.maxExpandDepth :=
      Nat.le_antisymm (Limits.depth_le_of_before hlevels hvisited) (Nat.lt_succ_iff.mp hlt)
    have hl : l ∈ q.levels := hlevels ▸ List.mem_append_cons_self
    rcases List.exists_mem_of_ne_nil _ hne with ⟨r, hr⟩
    refine ⟨rfl, by rw [hdepth], visited, l, rest, hlevels, ?_, hoptions, hdepth, r, hr,
      Query.expanded_mem_levels hl hr⟩
    -- A visited level has only visited levels in front of it.
    intro b hb
    rcases List.append_of_mem hb with ⟨front, back, rfl⟩
    rw [List.append_assoc, List.cons_append] at hlevels
    exact ⟨Limits.depth_le_of_before hlevels fun a ha => hvisited a (List.mem_append_left _ ha),
      hvisited b hb⟩
  · rintro ⟨rfl, rfl, visited, l, rest, hlevels, hvisited, hoptions, hdepth, r, hr, _⟩
    exact ⟨visited, l, rest, hlevels, fun b hb => (hvisited b hb).2, hoptions,
      List.ne_nil_of_mem hr, by rw [hdepth]; exact Nat.lt_succ_self _, by rw [hdepth], rfl⟩

/-- Two queries with other relations inside one that is at the greatest depth,
    in another number and down to another depth. What takes too much stands
    inside it or behind it. -/
theorem hidden_relations_do_not_count :
    let ls : Limits := { Limits.default with maxTop := 10, maxExpandDepth := 1 }
    let owner : Relation := { key := "owner", strict := true, options := { take := some 10 } }
    let tags : Relation := { key := "tags", options := { take := some 5000 } }
    let notes : Relation := { key := "notes", expands := [tags, owner] }
    let posts (inside : List Relation) : Relation :=
      { key := "posts", options := { filters := [⟨"id gt 1"⟩] }, expands := inside }
    let q (inside : List Relation) : Query := { expands := [owner, posts inside, tags] }
    (q [tags]).SameDownTo 1 (q [owner, notes]) ∧
      ls.validate (q [owner, notes]) = ls.validate (q [tags]) ∧
      ls.validate (q [tags]) = .error (.expandTooDeep 2 1) ∧
      ∃ visited l rest, (q [tags]).levels = visited ++ l :: rest ∧ l.depth = 1 ∧
        ∀ b ∈ visited, ∀ c ∈ b.checks, c.Holds ls := by
  intro ls owner tags notes posts q
  have hinside : (posts [tags]).query.SameDownTo 0 (posts [owner, notes]).query :=
    ⟨rfl, iff_of_false nofun nofun⟩
  have hsame : (q [tags]).SameDownTo 1 (q [owner, notes]) :=
    ⟨rfl, .cons ⟨rfl, rfl, rfl, Iff.rfl⟩ (.cons ⟨rfl, rfl, hinside⟩
      (.cons ⟨rfl, rfl, rfl, Iff.rfl⟩ .nil))⟩
  have hfails : ls.validate (q [tags]) = .error (.expandTooDeep 2 1) := rfl
  rcases ((depth_cap_cuts_the_walk ls (q [tags])).2 2 1).mp hfails with
    ⟨_, _, visited, l, rest, hlevels, hvisited, _, hdepth, _⟩
  exact ⟨hsame, (depth_cap_cuts_the_walk ls (q [tags])).1 _ hsame, hfails, visited, l, rest,
    hlevels, hdepth, fun b hb => (hvisited b hb).2⟩

end OData
