import OData.Proofs.Forest

/-!
# Levels of a Query

A query and the relations expanded in it, at any depth, are its levels. The
query itself is at depth zero, and a relation is one deeper than what it is
expanded in, so the depth of a level counts the `$expand`s around it.

`Query.levels` lists the levels in the order in which a reader meets them: each
before the relations expanded in it, and these in their order. Walks along a
query that give every level its turn are walks along this list, and what holds
for every level on its own is a statement about its members.

## Main definitions

* `Level`: A query with the depth at which it stands.
* `Relation.levels`, `Query.levels`: The levels, outer ones first.

## Theorems

* `Relation.levels_eq`: A relation is followed by the levels inside it.
* `Query.expanded_mem_levels`: What a level expands is a level one deeper.
* `Query.level_induction`: A property passes from the whole query to all
  levels.
* `Query.exists_expander_before`: A relation is listed behind what expands it.
-/

namespace OData

/-- What is asked for at one place of a query. -/
structure Level where
  /-- The number of `$expand`s around it. -/
  depth : Nat
  /-- What is asked for there. -/
  query : Query
deriving DecidableEq

mutual

/-- The levels of a relation at the given depth, outer ones first. -/
def Relation.levels (depth : Nat) : Relation → List Level
  | ⟨_, _, options, expands⟩ => ⟨depth, options, expands⟩ :: forestLevels (depth + 1) expands

/-- The levels of several relations at the given depth, one relation after the
    other. -/
def Relation.forestLevels (depth : Nat) : List Relation → List Level
  | [] => []
  | r :: rs => r.levels depth ++ forestLevels depth rs

end

/-- The levels of a query, outer ones first. -/
def Query.levels (q : Query) : List Level :=
  ⟨0, q⟩ :: Relation.forestLevels 1 q.expands

-- What stands in a list of groups stands in one of them, and has no more in
-- front of it there.
theorem exists_of_flatMap_eq_append_cons {α β : Type} {f : α → List β} {xs : List α} {y : β}
    {before after : List β} (h : xs.flatMap f = before ++ y :: after) :
    ∃ x ∈ xs, ∃ b a, f x = b ++ y :: a ∧ b ⊆ before := by
  induction xs generalizing before with
  | nil => exact absurd h.symm (List.append_ne_nil_of_right_ne_nil _ (List.cons_ne_nil _ _))
  | cons x xs ih =>
      -- The cut in front of the element is behind the first group or inside it.
      rw [List.flatMap_cons] at h
      rcases List.append_eq_append_iff.mp h with ⟨b, rfl, hb⟩ | ⟨cs, hx, hcs⟩
      · rcases ih hb with ⟨u, hu, b', a, hfu, hsub⟩
        exact ⟨u, List.mem_cons_of_mem _ hu, b', a, hfu,
          List.Subset.trans hsub (List.subset_append_right _ _)⟩
      · cases cs with
        | nil =>
            rcases @ih [] hcs.symm with ⟨u, hu, b', a, hfu, hsub⟩
            exact ⟨u, List.mem_cons_of_mem _ hu, b', a, hfu,
              List.Subset.trans hsub (List.nil_subset _)⟩
        | cons c cs =>
            rw [List.cons_append, List.cons.injEq] at hcs
            exact ⟨x, List.mem_cons_self, before, cs, hcs.1 ▸ hx, List.Subset.refl before⟩

namespace Relation

@[simp]
theorem forestLevels_eq_flatMap (depth : Nat) (rs : List Relation) :
    forestLevels depth rs = rs.flatMap (levels depth) := by
  induction rs with
  | nil => simp only [forestLevels, List.flatMap_nil]
  | cons r rs ih => simp only [forestLevels, ih, List.flatMap_cons]

/-- A relation is followed by the levels inside it. -/
theorem levels_eq (depth : Nat) (r : Relation) :
    r.levels depth = ⟨depth, r.query⟩ :: r.expands.flatMap (levels (depth + 1)) := by
  cases r
  simp [levels, query]

theorem expanded_mem_levels (r : Relation) {depth : Nat} {l : Level} {s : Relation}
    (hl : l ∈ r.levels depth) (hs : s ∈ l.query.expands) :
    ⟨l.depth + 1, s.query⟩ ∈ r.levels depth := by
  induction r using Relation.induction generalizing depth with
  | h r ih =>
      rw [levels_eq, List.mem_cons, List.mem_flatMap] at hl ⊢
      rcases hl with rfl | ⟨u, hu, hl⟩
      · -- The level is the relation itself, and a relation is the first of its own levels.
        refine Or.inr ⟨s, hs, ?_⟩
        rw [levels_eq]
        exact List.mem_cons_self
      · exact Or.inr ⟨u, hu, ih u hu hl⟩

/-- A property of levels that holds of a relation, and passes from a level to
    what it expands, holds of every level of the relation. -/
theorem level_induction {P : Level → Prop}
    (hstep : ∀ (l : Level) (s : Relation), P l → s ∈ l.query.expands → P ⟨l.depth + 1, s.query⟩)
    (r : Relation) {depth : Nat} (hr : P ⟨depth, r.query⟩) : ∀ l ∈ r.levels depth, P l := by
  -- The depth grows from level to level, so it goes with the induction.
  induction r using Relation.induction generalizing depth with
  | h r ih =>
      intro l hl
      rw [levels_eq, List.mem_cons, List.mem_flatMap] at hl
      rcases hl with rfl | ⟨s, hs, hl⟩
      · exact hr
      · exact ih s hs (hstep ⟨depth, r.query⟩ s hr hs) l hl

/-- A level of a relation is the relation itself, or stands behind the level
    that expands it. -/
theorem exists_expander_before (r : Relation) {depth : Nat} {l : Level} {before after : List Level}
    (h : r.levels depth = before ++ l :: after) :
    l = ⟨depth, r.query⟩ ∨ ∃ p ∈ before, ∃ s ∈ p.query.expands, l = ⟨p.depth + 1, s.query⟩ := by
  induction r using Relation.induction generalizing depth before after with
  | h r ih =>
      rw [levels_eq] at h
      cases before with
      | nil =>
          rw [List.nil_append, List.cons.injEq] at h
          exact Or.inl h.1.symm
      | cons b before =>
          rw [List.cons_append, List.cons.injEq] at h
          rcases exists_of_flatMap_eq_append_cons h.2 with ⟨s, hs, b', a, hlevels, hsub⟩
          rcases ih s hs hlevels with rfl | ⟨p, hp, hexpands⟩
          · exact Or.inr ⟨b, List.mem_cons_self, s, h.1 ▸ hs, by rw [← h.1]⟩
          · exact Or.inr ⟨p, List.mem_cons_of_mem _ (hsub hp), hexpands⟩

end Relation

namespace Query

-- A query has the levels of a relation at depth zero, whatever its name. So what
-- is known of relations carries over.
theorem levels_eq_relation (q : Query) (key : String) :
    q.levels = Relation.levels 0 ⟨key, false, q.options, q.expands⟩ := rfl

/-- What a level expands is a level one deeper. -/
theorem expanded_mem_levels {q : Query} {l : Level} {s : Relation} (hl : l ∈ q.levels)
    (hs : s ∈ l.query.expands) : ⟨l.depth + 1, s.query⟩ ∈ q.levels := by
  rw [levels_eq_relation q ""] at hl ⊢
  exact Relation.expanded_mem_levels _ hl hs

/-- A property of levels that holds of the whole query, and passes from a level
    to what it expands, holds of every level. -/
theorem level_induction {P : Level → Prop} {q : Query} (hq : P ⟨0, q⟩)
    (hstep : ∀ (l : Level) (s : Relation), P l → s ∈ l.query.expands → P ⟨l.depth + 1, s.query⟩) :
    ∀ l ∈ q.levels, P l := by
  rw [levels_eq_relation q ""]
  exact Relation.level_induction hstep _ hq

/-- A level is the whole query, or stands behind the level that expands it. -/
theorem exists_expander_before {q : Query} {l : Level} {before after : List Level}
    (h : q.levels = before ++ l :: after) :
    l = ⟨0, q⟩ ∨ ∃ p ∈ before, ∃ s ∈ p.query.expands, l = ⟨p.depth + 1, s.query⟩ := by
  rw [levels_eq_relation q ""] at h
  exact Relation.exists_expander_before _ h

end Query

end OData
