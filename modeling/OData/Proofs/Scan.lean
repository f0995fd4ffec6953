import OData.Text.Quoted

/-!
# Quote-aware Scanning

Reading a query from the left, all that matters about what came before is
whether a literal is open and how many parentheses are. Every quote opens or
closes a literal, a doubled one does both, and inside a literal nothing else
counts.

A text is closed when such a scan comes back to where it started, never closes
a parenthesis that was not opened, and meets none of the given stops outside
quotes and parentheses. Stops are the characters that mean something to
whoever joins texts: closed texts can be joined with a stop between them, and
the joints can be found again.

Closed texts are closed under everything the query writer does. They may be
put side by side, and between parentheses they are closed for any stops at
all, because one level further in no stop counts. A string literal is closed
whatever it holds.

## Main definitions

* `Scan`: What a scan remembers.
* `Scan.next`: The state after one more character.
* `Scan.Admits`: A character may stand where the scan is.
* `Scan.run`: A whole scan, which ends early at a character not admitted.
* `Closed`: A text whose scan comes back to the start.
* `Over`, `Avoids`: A text of certain characters only, or without certain
  characters.

## Theorems

* `Scan.run_append`: A scan may be cut anywhere.
* `Scan.run_inner`: One level further in, a scan does the same and meets no
  stops.
* `Scan.run_isPrefix`: A scan that ends has passed every prefix.
* `Over.append`, `Over.intercalate`: Joining texts adds no other characters.
* `Closed.append`, `Closed.intercalate`: Closed texts may be joined.
* `Closed.parenthesized`: Parentheses hide all stops.
* `closed_quoted`: A string literal is closed.
* `closed_of_avoids`: So is a text without special characters.
-/

namespace OData

namespace Text

/-- What a scan remembers of the text it has passed. -/
structure Scan where
  /-- A string literal is open. -/
  quoted : Bool := false
  /-- How many parentheses are open. -/
  depth : Nat := 0
deriving DecidableEq

namespace Scan

/-- Outside quotes and parentheses. -/
def start : Scan := {}

/-- The state after one more character. -/
def next (s : Scan) (c : Char) : Scan :=
  if c = quote then { s with quoted := !s.quoted }
  else if s.quoted then s
  else if c = '(' then { s with depth := s.depth + 1 }
  else if c = ')' then { s with depth := s.depth - 1 }
  else s

/-- Whether a character may stand where the scan is. Outside quotes and
    parentheses there is nothing to close, and no stop is let through. -/
def Admits (stops : List Char) (s : Scan) (c : Char) : Prop :=
  s.quoted = true ∨ s.depth ≠ 0 ∨ (c ≠ ')' ∧ c ∉ stops)

instance (stops : List Char) (s : Scan) (c : Char) : Decidable (s.Admits stops c) :=
  inferInstanceAs (Decidable (_ ∨ _))

/-- The state after one more character, if it is admitted. -/
def step (stops : List Char) (s : Scan) (c : Char) : Option Scan :=
  if s.Admits stops c then some (s.next c) else none

/-- The state after a whole text, if every character of it is admitted. -/
def run (stops : List Char) : Scan → List Char → Option Scan :=
  List.foldlM (step stops)

/-- The same state with one more parenthesis open. -/
def inner (s : Scan) : Scan :=
  { s with depth := s.depth + 1 }

variable {stops : List Char} {s t : Scan} {c : Char} {cs ds : List Char}

@[simp]
theorem run_nil : run stops s [] = some s := rfl

theorem run_append : run stops s (cs ++ ds) = (run stops s cs).bind fun t => run stops t ds :=
  List.foldlM_append

theorem run_cons_of_admits (h : s.Admits stops c) :
    run stops s (c :: cs) = run stops (s.next c) cs := by
  simp only [run, List.foldlM_cons, step, h, if_true, Option.bind_eq_bind, Option.bind_some]

/-- A scan that goes on has admitted its first character. -/
theorem run_cons_eq_some_iff :
    run stops s (c :: cs) = some t ↔ s.Admits stops c ∧ run stops (s.next c) cs = some t := by
  by_cases h : s.Admits stops c
  · simp only [run_cons_of_admits h, h, true_and]
  · simp only [run, List.foldlM_cons, step, h, if_false, Option.bind_eq_bind, Option.bind_none,
      reduceCtorEq, false_and]

theorem admits_start (hp : c ≠ ')') (hs : c ∉ stops) : start.Admits stops c :=
  Or.inr (Or.inr ⟨hp, hs⟩)

theorem admits_inner : s.inner.Admits stops c :=
  Or.inr (Or.inl (Nat.succ_ne_zero s.depth))

@[simp]
theorem quoted_inner : s.inner.quoted = s.quoted := rfl

theorem next_inner (h : s.Admits stops c) : s.inner.next c = (s.next c).inner := by
  -- Both scans branch alike, since only the quote flag and the character decide.
  unfold next
  rw [quoted_inner]
  by_cases hq : c = quote
  · rw [if_pos hq, if_pos hq]
    rfl
  · rw [if_neg hq, if_neg hq]
    by_cases hs : s.quoted = true
    · rw [if_pos hs, if_pos hs]
    · rw [if_neg hs, if_neg hs]
      by_cases ho : c = '('
      · rw [if_pos ho, if_pos ho]
        rfl
      · rw [if_neg ho, if_neg ho]
        by_cases hc : c = ')'
        · -- The parenthesis was admitted, so there was one to close.
          have hd : s.depth ≠ 0 := (h.resolve_left hs).resolve_right fun hp => hp.1 hc
          rw [if_pos hc, if_pos hc]
          simp only [inner, Scan.mk.injEq, true_and]
          omega
        · rw [if_neg hc, if_neg hc]

/-- One level further in, a scan does the same and meets no stops. -/
theorem run_inner (stops' : List Char) (h : run stops s cs = some t) :
    run stops' s.inner cs = some t.inner := by
  -- The state changes from character to character, so it goes with the induction.
  induction cs generalizing s with
  | nil =>
      rw [run_nil, Option.some.injEq] at h
      simp [h]
  | cons c cs ih =>
      rcases run_cons_eq_some_iff.mp h with ⟨hadmits, hrest⟩
      rw [run_cons_of_admits admits_inner, next_inner hadmits]
      exact ih hrest

/-- Fewer stops admit more. -/
theorem run_mono {stops' : List Char} (hsub : stops' ⊆ stops) (h : run stops s cs = some t) :
    run stops' s cs = some t := by
  induction cs generalizing s with
  | nil => exact h
  | cons c cs ih =>
      rcases run_cons_eq_some_iff.mp h with ⟨hadmits, hrest⟩
      refine run_cons_eq_some_iff.mpr ⟨hadmits.imp_right fun h => h.imp_right fun h => ?_, ih hrest⟩
      exact ⟨h.1, fun hc => h.2 (hsub hc)⟩

/-- A scan that ends has passed every prefix. -/
theorem run_isPrefix (h : run stops s cs = some t) (hp : ds <+: cs) :
    ∃ u, run stops s ds = some u := by
  -- What the scan of the whole text went through is there after the prefix.
  rcases hp with ⟨rest, rfl⟩
  rw [run_append, Option.bind_eq_some_iff] at h
  rcases h with ⟨u, hu, _⟩
  exact ⟨u, hu⟩

end Scan

/-- A text whose scan comes back to the start and meets no stop outside quotes
    and parentheses. -/
def Closed (stops : List Char) (s : String) : Prop :=
  Scan.run stops .start s.toList = some .start

instance (stops : List Char) (s : String) : Decidable (Closed stops s) :=
  inferInstanceAs (Decidable (_ = _))

/-- A text all of whose characters are of one kind. -/
def Over (p : Char → Prop) (s : String) : Prop :=
  ∀ c ∈ s.toList, p c

-- Decided by a walk along the text, not by one over all characters there are.
instance (p : Char → Prop) [DecidablePred p] (s : String) : Decidable (Over p s) :=
  List.decidableBAll p s.toList

/-- A text in which certain characters do not occur. -/
def Avoids (cs : List Char) (s : String) : Prop :=
  Over (· ∉ cs) s

instance (cs : List Char) (s : String) : Decidable (Avoids cs s) :=
  inferInstanceAs (Decidable (Over (· ∉ cs) s))

section

variable {p : Char → Prop} {s t : String}

theorem Over.mono {q : Char → Prop} (hpq : ∀ c, p c → q c) (h : Over p s) : Over q s :=
  fun c hc => hpq c (h c hc)

theorem Over.avoids [DecidablePred p] {cs : List Char} (h : Over p s)
    (hnone : cs.all (fun c => ¬ p c) = true) : Avoids cs s := by
  intro c hc hmem
  have hnot := List.all_eq_true.mp hnone c hmem
  exact of_decide_eq_true hnot (h c hc)

theorem Avoids.not_mem {cs : List Char} {c : Char} (h : Avoids cs s) (hc : c ∈ cs) :
    c ∉ s.toList :=
  fun hmem => h c hmem hc

theorem Avoids.mono {cs ds : List Char} (hsub : ds ⊆ cs) (h : Avoids cs s) : Avoids ds s :=
  Over.mono (fun _ hc hd => hc (hsub hd)) h

theorem Over.append (hs : Over p s) (ht : Over p t) : Over p (s ++ t) := by
  intro c hc
  rw [String.toList_append, List.mem_append] at hc
  rcases hc with hc | hc
  · exact hs c hc
  · exact ht c hc

theorem Over.intercalate {sep : String} {ps : List String} (hsep : Over p sep)
    (h : ∀ q ∈ ps, Over p q) : Over p (sep.intercalate ps) := by
  induction ps with
  | nil =>
      intro c hc
      rw [String.intercalate_nil] at hc
      exact absurd hc List.not_mem_nil
  | cons q qs ih =>
      have hq := h q List.mem_cons_self
      have hqs := ih fun r hr => h r (List.mem_cons_of_mem _ hr)
      cases qs with
      | nil => rw [String.intercalate_singleton]; exact hq
      | cons r rs => rw [String.intercalate_cons_cons]; exact (hq.append hsep).append hqs

end

variable {stops : List Char} {s t : String}

theorem closed_empty : Closed stops "" := rfl

theorem Closed.mono {stops' : List Char} (hsub : stops' ⊆ stops) (h : Closed stops s) :
    Closed stops' s :=
  Scan.run_mono hsub h

theorem Closed.append (hs : Closed stops s) (ht : Closed stops t) : Closed stops (s ++ t) := by
  unfold Closed at hs ht ⊢
  rw [String.toList_append, Scan.run_append, hs, Option.bind_some, ht]

theorem Closed.intercalate {sep : String} {ps : List String} (hsep : Closed stops sep)
    (h : ∀ p ∈ ps, Closed stops p) : Closed stops (sep.intercalate ps) := by
  induction ps with
  | nil => rw [String.intercalate_nil]; exact closed_empty
  | cons p ps ih =>
      have hp := h p List.mem_cons_self
      have hps := ih fun q hq => h q (List.mem_cons_of_mem _ hq)
      cases ps with
      | nil => rw [String.intercalate_singleton]; exact hp
      | cons q qs => rw [String.intercalate_cons_cons]; exact (hp.append hsep).append hps

/-- Parentheses hide all stops, so the new ones have nothing to do with the
    old ones. -/
theorem Closed.parenthesized {stops' : List Char} (hopen : '(' ∉ stops') (h : Closed stops s) :
    Closed stops' ("(" ++ s ++ ")") := by
  have hadmits : Scan.start.Admits stops' '(' := Scan.admits_start (by decide) hopen
  have hclose : Scan.run stops' Scan.start.inner [')'] = some Scan.start := by
    rw [Scan.run_cons_of_admits Scan.admits_inner]
    rfl
  have hnext : Scan.start.next '(' = Scan.start.inner := rfl
  have hlist : ("(" ++ s ++ ")").toList = '(' :: (s.toList ++ [')']) := by
    simp only [String.toList_append]
    rfl
  -- After the opening parenthesis the old scan runs again, one level further in.
  unfold Closed at h ⊢
  rw [hlist, Scan.run_cons_of_admits hadmits, hnext, Scan.run_append, Scan.run_inner stops' h,
    Option.bind_some, hclose]

/-- Inside a literal, doubled quotes leave and enter it again. -/
theorem run_doubled (hq : quote ∉ stops) (cs : List Char) :
    Scan.run stops ⟨true, 0⟩ (doubled cs) = some ⟨true, 0⟩ := by
  have hin (c : Char) : Scan.Admits stops ⟨true, 0⟩ c := Or.inl rfl
  have hout : Scan.Admits stops ⟨false, 0⟩ quote := Scan.admits_start (by decide) hq
  induction cs with
  | nil => rfl
  | cons c cs ih =>
      by_cases hc : c = quote
      · -- Between the two quotes the scan is outside for a moment, with nothing to see.
        have hleave : Scan.next ⟨true, 0⟩ quote = ⟨false, 0⟩ := rfl
        have henter : Scan.next ⟨false, 0⟩ quote = ⟨true, 0⟩ := rfl
        simp only [doubled, hc, if_true]
        rw [Scan.run_cons_of_admits (hin quote), hleave, Scan.run_cons_of_admits hout, henter, ih]
      · have hstay : Scan.next ⟨true, 0⟩ c = ⟨true, 0⟩ := by
          simp only [Scan.next, hc, if_false, if_true]
        simp only [doubled, hc, if_false]
        rw [Scan.run_cons_of_admits (hin c), hstay, ih]

/-- A string literal is closed whatever it holds. -/
theorem closed_quoted (hq : quote ∉ stops) (s : String) : Closed stops (quoted s) := by
  have hadmits : Scan.start.Admits stops quote := Scan.admits_start (by decide) hq
  have hopen : Scan.start.next quote = ⟨true, 0⟩ := rfl
  unfold Closed quoted
  rw [String.toList_ofList, List.cons_append, Scan.run_cons_of_admits hadmits, hopen,
    Scan.run_append, run_doubled hq, Option.bind_some]
  rfl

/-- A text without special characters leaves the scan where it is. -/
theorem closed_of_avoids (h : Avoids (quote :: '(' :: ')' :: stops) s) : Closed stops s := by
  unfold Closed
  unfold Avoids Over at h
  generalize s.toList = cs at h ⊢
  -- The state never changes, so it need not be generalized.
  induction cs with
  | nil => rfl
  | cons c cs ih =>
      have hc := h c List.mem_cons_self
      simp only [List.mem_cons, not_or] at hc
      rcases hc with ⟨hq, ho, hcl, hstop⟩
      have hstay : Scan.start.next c = Scan.start := by
        simp only [Scan.next, hq, ho, hcl, if_false, Scan.start, Bool.false_eq_true]
      rw [Scan.run_cons_of_admits (Scan.admits_start hcl hstop), hstay]
      exact ih fun d hd => h d (List.mem_cons_of_mem _ hd)

end Text

end OData
