/-!
# Runs of Characters

Tables of characters are lists of ranges of code points, or of runs that take
every character or every second one of a range.

## Main definitions

* `inRanges`: A code point lies in one of several ranges.
* `Run`, `Run.contains`: An arithmetic run of code points.

## Theorems

* `inRanges_iff`, `Run.contains_iff`: Membership in words.
-/

namespace OData

namespace Unicode

/-- Whether a code point lies in one of the ranges, ends included. -/
def inRanges (ranges : List (Nat × Nat)) (n : Nat) : Bool :=
  ranges.any fun r => r.1 ≤ n && n ≤ r.2

/-- The code points from one to another in steps. -/
structure Run where
  /-- The first one. -/
  first : Nat
  /-- The last one. -/
  last : Nat
  /-- The distance between neighbours. -/
  step : Nat
deriving DecidableEq

/-- Whether a code point belongs to the run. -/
def Run.contains (r : Run) (n : Nat) : Bool :=
  r.first ≤ n && n ≤ r.last && (n - r.first) % r.step == 0

theorem inRanges_iff (ranges : List (Nat × Nat)) (n : Nat) :
    inRanges ranges n = true ↔ ∃ r ∈ ranges, r.1 ≤ n ∧ n ≤ r.2 := by
  simp only [inRanges, List.any_eq_true, Bool.and_eq_true, decide_eq_true_eq]

theorem Run.contains_iff (r : Run) (n : Nat) :
    r.contains n = true ↔ r.first ≤ n ∧ n ≤ r.last ∧ (n - r.first) % r.step = 0 := by
  simp only [contains, Bool.and_eq_true, decide_eq_true_eq, beq_iff_eq, and_assoc]

end Unicode

end OData
