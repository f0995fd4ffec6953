import OData.Fallible
import OData.Limits.Validate
import OData.Proofs.Levels

/-!
# The First Violation

Validation stops at the first cap that is broken. What "first" means is given
here without running anything: `Query.checks` lists every comparison that a
query is subject to, level by level and at each level in the fixed order. A
query is within its limits when all of them hold. If not, the answer is the
first one that fails, with the value found there and the cap.

So nothing is skipped at any depth, nothing is checked twice with another
outcome, and of several violations it is settled which one is reported.

## Main definitions

* `Check`: A value that is held against a cap.
* `Check.Holds`, `Check.violation`: The value is small enough, or what is
  reported if it is not.
* `Query.checks`: All checks on a query, in order.
* `Limits.enforce`: One check, carried out.

## Theorems

* `Level.checks_hold_iff`: The checks on a level, cap by cap.
* `Limits.checkOptions_eq`, `Limits.checkRelation_eq`, `Limits.validate_eq`:
  Validation carries out the checks in order.
* `Limits.forM_enforce_eq_ok_iff`, `Limits.forM_enforce_eq_error_iff`: The
  outcome of checks that are carried out in order.
* `validate_reports_first_violation`: All of it together.
-/

namespace OData

/-- A value that is held against a cap. -/
structure Check where
  /-- The cap. -/
  limit : Limit
  /-- The value. -/
  found : Nat
deriving DecidableEq

namespace Check

/-- The value is no larger than the cap. -/
def Holds (ls : Limits) (c : Check) : Prop :=
  c.found ≤ ls.get c.limit

instance (ls : Limits) (c : Check) : Decidable (c.Holds ls) :=
  inferInstanceAs (Decidable (_ ≤ _))

/-- What is reported of a value that is too large. -/
def violation (ls : Limits) (c : Check) : Violation :=
  match c.limit with
  | .top => .topTooLarge c.found ls.maxTop
  | .orderby => .tooManyOrderbyFields c.found ls.maxOrderbyFields
  | .select => .tooManySelectFields c.found ls.maxSelectFields
  | .filter => .filterTooLong c.found ls.maxFilterLength
  | .expand => .expandTooDeep c.found ls.maxExpandDepth

end Check

/-- The checks on the options of one level. -/
def Options.checks (o : Options) : List Check :=
  (o.take.map (Check.mk .top)).toList ++
    [⟨.orderby, o.orderby.length⟩, ⟨.select, o.select.length⟩] ++
    ((Filter.conjoin o.filters).map fun f => ⟨.filter, f.text.length⟩).toList

/-- The checks on one level. Its relations are one deeper than it is. -/
def Level.checks (l : Level) : List Check :=
  l.query.options.checks ++ if l.query.expands = [] then [] else [⟨.expand, l.depth + 1⟩]

/-- The checks on a query, level by level. -/
def Query.checks (q : Query) : List Check :=
  q.levels.flatMap Level.checks

theorem forall_mem_toList_map {α β : Type} {f : α → β} {a? : Option α} {P : β → Prop} :
    (∀ b ∈ (a?.map f).toList, P b) ↔ ∀ a, a? = some a → P (f a) := by
  cases a? with
  | none => exact ⟨fun _ => nofun, fun _ => nofun⟩
  | some a => simp only [Option.map_some, Option.toList_some, List.mem_singleton, forall_eq,
      Option.some.injEq, forall_eq']

/-- The checks on a level hold when it keeps every cap. -/
theorem Level.checks_hold_iff {ls : Limits} {l : Level} :
    (∀ c ∈ l.checks, c.Holds ls) ↔
      (∀ n, l.query.options.take = some n → n ≤ ls.maxTop) ∧
      l.query.options.orderby.length ≤ ls.maxOrderbyFields ∧
      l.query.options.select.length ≤ ls.maxSelectFields ∧
      (∀ f, Filter.conjoin l.query.options.filters = some f →
        f.text.length ≤ ls.maxFilterLength) ∧
      (l.query.expands ≠ [] → l.depth + 1 ≤ ls.maxExpandDepth) := by
  have hexpand : (∀ c ∈ (if l.query.expands = [] then [] else [Check.mk .expand (l.depth + 1)]),
      c.Holds ls) ↔ (l.query.expands ≠ [] → l.depth + 1 ≤ ls.maxExpandDepth) := by
    by_cases hnil : l.query.expands = []
    · rw [if_pos hnil]
      exact ⟨fun _ hne => absurd hnil hne, fun _ => nofun⟩
    · rw [if_neg hnil, List.forall_mem_singleton]
      exact ⟨fun h _ => h, fun h => h hnil⟩
  unfold checks Options.checks
  rw [List.forall_mem_append, List.forall_mem_append, List.forall_mem_append,
    List.forall_mem_cons, List.forall_mem_singleton, forall_mem_toList_map,
    forall_mem_toList_map, hexpand]
  simp only [Check.Holds, Limits.get, and_assoc]

namespace Limits

/-- One check, carried out. -/
def enforce (ls : Limits) (c : Check) : Except Violation Unit :=
  if c.Holds ls then .ok () else .error (c.violation ls)

variable {ls : Limits} {c : Check} {cs : List Check} {v : Violation}

theorem enforce_of_holds (h : c.Holds ls) : ls.enforce c = .ok () :=
  if_pos h

theorem enforce_of_not_holds (h : ¬ c.Holds ls) : ls.enforce c = .error (c.violation ls) :=
  if_neg h

theorem enforce_eq (ls : Limits) (c : Check) :
    ls.enforce c = if ls.get c.limit < c.found then .error (c.violation ls) else .ok () := by
  by_cases h : c.Holds ls
  · rw [enforce_of_holds h, if_neg (Nat.not_lt.mpr h)]
  · rw [enforce_of_not_holds h, if_pos (Nat.not_le.mp h)]

@[simp]
theorem checkTop_eq (ls : Limits) (n : Nat) : ls.checkTop n = ls.enforce ⟨.top, n⟩ := by
  rw [enforce_eq]
  rfl

@[simp]
theorem checkOrderby_eq (ls : Limits) (n : Nat) : ls.checkOrderby n = ls.enforce ⟨.orderby, n⟩ := by
  rw [enforce_eq]
  rfl

@[simp]
theorem checkSelect_eq (ls : Limits) (n : Nat) : ls.checkSelect n = ls.enforce ⟨.select, n⟩ := by
  rw [enforce_eq]
  rfl

@[simp]
theorem checkFilter_eq (ls : Limits) (f : Filter) :
    ls.checkFilter f = ls.enforce ⟨.filter, f.text.length⟩ := by
  rw [enforce_eq]
  rfl

theorem checkOptions_eq (ls : Limits) (o : Options) :
    ls.checkOptions o = forM o.checks ls.enforce := by
  unfold checkOptions Options.checks
  -- The first and the last check are there only if there is something to check.
  cases o.take <;> cases Filter.conjoin o.filters <;>
    simp

-- The depth is checked only where there are relations.
theorem checkDepth_eq (ls : Limits) (depth : Nat) (rs : List Relation) :
    ls.checkDepth depth rs =
      forM (if rs = [] then [] else [Check.mk .expand depth]) ls.enforce := by
  cases rs with
  | nil => rfl
  | cons r rs =>
      rw [if_neg (List.cons_ne_nil r rs), List.forM_cons, List.forM_nil, bind_pure_unit, enforce_eq]
      simp only [checkDepth, List.isEmpty_cons, Bool.not_false, true_and]
      rfl

theorem checkLevel_eq (ls : Limits) (l : Level) :
    (do
      ls.checkOptions l.query.options
      ls.checkDepth (l.depth + 1) l.query.expands) = forM l.checks ls.enforce := by
  rw [Level.checks, List.forM_append, checkOptions_eq, checkDepth_eq]

-- Several relations are checked one after the other, and each as a whole.
theorem checkRelations_eq (ls : Limits) (depth : Nat) (rs : List Relation)
    (h : ∀ r ∈ rs, ls.checkRelation depth r =
      forM ((r.levels depth).flatMap Level.checks) ls.enforce) :
    ls.checkRelations depth rs =
      forM ((rs.flatMap (Relation.levels depth)).flatMap Level.checks) ls.enforce := by
  induction rs with
  | nil => rfl
  | cons r rs ih =>
      rw [checkRelations, h r List.mem_cons_self,
        ih fun s hs => h s (List.mem_cons_of_mem _ hs), List.flatMap_cons, List.flatMap_append,
        List.forM_append]

/-- A relation is checked level by level, outer ones first. -/
theorem checkRelation_eq (ls : Limits) (depth : Nat) (r : Relation) :
    ls.checkRelation depth r = forM ((r.levels depth).flatMap Level.checks) ls.enforce := by
  induction r using Relation.induction generalizing depth with
  | h r ih =>
      have hinner := ls.checkRelations_eq (depth + 1) r.expands fun s hs => ih s hs (depth + 1)
      rw [Relation.levels_eq, List.flatMap_cons, List.forM_append, ← hinner, ← checkLevel_eq]
      cases r
      rw [checkRelation, bind_assoc]
      rfl

-- Validation treats a query like a relation at depth zero.
theorem validate_eq (ls : Limits) (q : Query) : ls.validate q = forM q.checks ls.enforce := by
  rw [Query.checks, Query.levels_eq_relation q "", ← checkRelation_eq]
  rfl

@[simp]
theorem enforce_eq_ok_iff : ls.enforce c = .ok () ↔ c.Holds ls := by
  by_cases h : c.Holds ls
  · exact iff_of_true (enforce_of_holds h) h
  · rw [enforce_of_not_holds h]
    exact ⟨nofun, fun hc => absurd hc h⟩

theorem enforce_eq_error_iff : ls.enforce c = .error v ↔ ¬ c.Holds ls ∧ v = c.violation ls := by
  by_cases h : c.Holds ls
  · rw [enforce_of_holds h]
    exact ⟨nofun, fun hc => absurd h hc.1⟩
  · rw [enforce_of_not_holds h, Except.error.injEq, eq_comm, iff_and_self]
    exact fun _ => h

-- Checks that are carried out in order pass when all of them hold.
@[simp]
theorem forM_enforce_eq_ok_iff : forM cs ls.enforce = .ok () ↔ ∀ c ∈ cs, c.Holds ls := by
  simp [forM_eq_ok_iff]

/-- Otherwise the answer is the first of them that does not hold. -/
theorem forM_enforce_eq_error_iff :
    forM cs ls.enforce = .error v ↔
      ∃ before c after, cs = before ++ c :: after ∧ (∀ b ∈ before, b.Holds ls) ∧
        ¬ c.Holds ls ∧ v = c.violation ls := by
  simp [forM_eq_error_iff, enforce_eq_error_iff]

/-- A query is within its limits when every level of it is. -/
@[simp]
theorem validate_eq_ok_iff (ls : Limits) (q : Query) :
    ls.validate q = .ok () ↔ ∀ l ∈ q.levels, ∀ c ∈ l.checks, c.Holds ls := by
  rw [validate_eq, forM_enforce_eq_ok_iff, Query.checks]
  simp only [List.mem_flatMap, forall_exists_index, and_imp]
  exact ⟨fun h l hl c hc => h c l hl hc, fun h c l hl hc => h l hl c hc⟩

end Limits

/-- Validation reports the first violation. It passes when every check on the
    query holds. It answers with a violation when the checks in front of some
    check hold and that one does not, and the answer is what that check
    reports. -/
theorem validate_reports_first_violation (ls : Limits) (q : Query) :
    (ls.validate q = .ok () ↔ ∀ c ∈ q.checks, c.Holds ls) ∧
    ∀ v, ls.validate q = .error v ↔
      ∃ before c after, q.checks = before ++ c :: after ∧ (∀ b ∈ before, b.Holds ls) ∧
        ¬ c.Holds ls ∧ v = c.violation ls := by
  rw [Limits.validate_eq]
  exact ⟨Limits.forM_enforce_eq_ok_iff, fun _ => Limits.forM_enforce_eq_error_iff⟩

/-- Three caps are broken, two of them by values that stand inside or behind
    what is expanded too deeply. The depth is what is reported. -/
theorem depth_reported_before_inner_top :
    let ls : Limits := { Limits.default with maxTop := 10, maxExpandDepth := 1 }
    let tags : Relation := { key := "tags", options := { take := some 50 } }
    let posts : Relation := { key := "posts", options := { take := some 5 }, expands := [tags] }
    let owner : Relation := { key := "owner", options := { take := some 99 } }
    let q : Query := { options := { filters := [⟨"id gt 1"⟩] }, expands := [posts, owner] }
    ls.validate q = .error (.expandTooDeep 2 1) := by
  intro ls tags posts owner q
  refine ((validate_reports_first_violation ls q).2 _).mpr
    ⟨[⟨.orderby, 0⟩, ⟨.select, 0⟩, ⟨.filter, 7⟩, ⟨.expand, 1⟩, ⟨.top, 5⟩, ⟨.orderby, 0⟩,
      ⟨.select, 0⟩], ⟨.expand, 2⟩,
      [⟨.top, 50⟩, ⟨.orderby, 0⟩, ⟨.select, 0⟩, ⟨.top, 99⟩, ⟨.orderby, 0⟩, ⟨.select, 0⟩],
      rfl, by decide, by decide, rfl⟩

end OData
