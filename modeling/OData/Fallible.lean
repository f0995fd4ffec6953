/-!
# Steps That May Fail

Facts about steps that are taken one after the other until one fails. Where the
whole has succeeded every step has, and each had its own result. What is known
of one step on success is then known of a whole list of them. Where the whole
has failed there is a first step that has, and nothing behind it was taken.

To say which fault that is, the faults of every step can be listed as if none
of them stopped the others. The fault of the whole is then the first in the
list, for single steps, for steps in a row, and for a step on every member of a
list.

## Main definitions

* `fault?`: What a step fails with, if it fails.

## Theorems

* `exists_of_bind_eq_ok`: Two steps that succeed, taken apart.
* `forM_eq_ok_iff`, `forM_eq_error_iff`: The outcome of steps that give no
  result.
* `forM_flatMap`: Steps taken group by group.
* `map_eq_of_mapM`: A view of every result is one of what it was made from.
* `fault?_bind`, `fault?_mapM`, `fault?_mapError`: The first fault of several
  steps.
-/

namespace OData

variable {ε α β γ : Type}

theorem exists_of_bind_eq_ok {x : Except ε α} {f : α → Except ε β} {b : β}
    (h : (x >>= f) = .ok b) : ∃ a, x = .ok a ∧ f a = .ok b := by
  cases x with
  | error e => simp only [bind, Except.bind, reduceCtorEq] at h
  | ok a => exact ⟨a, rfl, h⟩

/-- Steps taken in order succeed when every one of them does. -/
theorem forM_eq_ok_iff {f : α → Except ε Unit} {xs : List α} :
    forM xs f = .ok () ↔ ∀ x ∈ xs, f x = .ok () := by
  induction xs with
  | nil => exact ⟨fun _ => nofun, fun _ => rfl⟩
  | cons x xs ih =>
      rw [List.forM_cons, List.forall_mem_cons, ← ih]
      cases f x with
      | ok u => exact ⟨fun h => ⟨rfl, h⟩, fun h => h.2⟩
      | error e => exact ⟨nofun, fun h => absurd h.1 nofun⟩

/-- Otherwise the outcome is that of the first one that fails. -/
theorem forM_eq_error_iff {f : α → Except ε Unit} {xs : List α} {e : ε} :
    forM xs f = .error e ↔
      ∃ before x after, xs = before ++ x :: after ∧ (∀ b ∈ before, f b = .ok ()) ∧
        f x = .error e := by
  induction xs with
  | nil =>
      refine ⟨nofun, ?_⟩
      rintro ⟨before, x, after, h, _⟩
      exact absurd h.symm (List.append_ne_nil_of_right_ne_nil _ (List.cons_ne_nil _ _))
  | cons y ys ih =>
      rw [List.forM_cons]
      cases hy : f y with
      | ok u =>
          -- A step that succeeds goes in front of those taken before.
          constructor
          · intro h
            rcases ih.mp h with ⟨before, x, after, rfl, hbefore, hx⟩
            exact ⟨y :: before, x, after, rfl, List.forall_mem_cons.mpr ⟨hy, hbefore⟩, hx⟩
          · rintro ⟨before, x, after, hys, hbefore, hx⟩
            cases before with
            | nil =>
                rw [List.nil_append, List.cons.injEq] at hys
                rw [← hys.1, hy] at hx
                exact absurd hx nofun
            | cons b before =>
                rw [List.cons_append, List.cons.injEq] at hys
                exact ih.mpr ⟨before, x, after, hys.2, (List.forall_mem_cons.mp hbefore).2, hx⟩
      | error e' =>
          -- A step that fails is the first one, and nothing behind it is taken.
          constructor
          · intro h
            exact ⟨[], y, ys, rfl, nofun, hy.trans h⟩
          · rintro ⟨before, x, after, hys, hbefore, hx⟩
            cases before with
            | nil =>
                rw [List.nil_append, List.cons.injEq] at hys
                rw [← hys.1, hy] at hx
                exact hx
            | cons b before =>
                rw [List.cons_append, List.cons.injEq] at hys
                have hb := (List.forall_mem_cons.mp hbefore).1
                rw [← hys.1, hy] at hb
                exact absurd hb nofun

/-- Steps that come in groups are taken group by group. -/
theorem forM_flatMap {f : β → Except ε Unit} {g : α → List β} (xs : List α) :
    forM (xs.flatMap g) f = forM xs fun x => forM (g x) f := by
  induction xs with
  | nil => rfl
  | cons x xs ih => rw [List.flatMap_cons, List.forM_append, List.forM_cons, ih]

/-- If every result shows what it was made from in some way, then so does the
    list of all results. -/
theorem map_eq_of_mapM {f : α → Except ε β} (given : α → γ) (shown : β → γ) {xs : List α}
    {ys : List β} (hf : ∀ x y, f x = .ok y → shown y = given x) (h : xs.mapM f = .ok ys) :
    ys.map shown = xs.map given := by
  induction xs generalizing ys with
  | nil =>
      rw [List.mapM_nil] at h
      rw [← Except.ok.inj h, List.map_nil, List.map_nil]
  | cons x xs ih =>
      rw [List.mapM_cons] at h
      rcases exists_of_bind_eq_ok h with ⟨y, hy, h⟩
      rcases exists_of_bind_eq_ok h with ⟨rest, hrest, h⟩
      rw [← Except.ok.inj h, List.map_cons, List.map_cons, hf x y hy, ih hrest]

/-- What a step fails with, if it fails. -/
def fault? : Except ε α → Option ε
  | .ok _ => none
  | .error e => some e

theorem fault?_eq_some_iff {x : Except ε α} {e : ε} : fault? x = some e ↔ x = .error e := by
  cases x with
  | ok a => exact ⟨nofun, nofun⟩
  | error e' => rw [fault?, Option.some.injEq, Except.error.injEq]

theorem fault?_eq_none_iff {x : Except ε α} : fault? x = none ↔ ∃ a, x = .ok a := by
  cases x with
  | ok a => exact ⟨fun _ => ⟨a, rfl⟩, fun _ => rfl⟩
  | error e => exact ⟨nofun, nofun⟩

/-- The first fault of two steps. The faults of the second one need only be
    known after a success of the first. -/
theorem fault?_bind {x : Except ε α} {f : α → Except ε β} {fs gs : List ε}
    (hx : fault? x = fs.head?) (hf : ∀ a, x = .ok a → fault? (f a) = gs.head?) :
    fault? (x >>= f) = (fs ++ gs).head? := by
  rw [List.head?_append, ← hx]
  cases x with
  | ok a => exact hf a rfl
  | error e => rfl

-- What cannot fail adds no fault.
theorem fault?_bind_of_ok {x : Except ε α} {f : α → Except ε β} (hf : ∀ a, fault? (f a) = none) :
    fault? (x >>= f) = fault? x := by
  cases x with
  | ok a => exact hf a
  | error e => rfl

/-- The first fault of a step that is taken on every member of a list. -/
theorem fault?_mapM {f : α → Except ε β} {fs : α → List ε} (xs : List α)
    (hf : ∀ x, fault? (f x) = (fs x).head?) : fault? (xs.mapM f) = (xs.flatMap fs).head? := by
  induction xs with
  | nil => rfl
  | cons x xs ih =>
      rw [List.mapM_cons, List.flatMap_cons]
      exact fault?_bind (hf x) fun y _ => (fault?_bind_of_ok fun _ => rfl).trans ih

theorem fault?_mapError {ε' : Type} (g : ε → ε') {x : Except ε α} {fs : List ε}
    (hx : fault? x = fs.head?) : fault? (x.mapError g) = (fs.map g).head? := by
  rw [List.head?_map, ← hx]
  cases x <;> rfl

end OData
