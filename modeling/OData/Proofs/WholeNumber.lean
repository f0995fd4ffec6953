import Mathlib.Data.List.TakeWhile
import OData.Json.Read
import OData.Proofs.Numeral
import OData.Proofs.Remainder

/-!
# Whole Numbers in a Document

A cap must be a natural number of 64 bits, and there is one way to write each.
The reader knows many kinds of numbers, so what has to be shown is that none of
the others ends up as a natural number: a sign, a point or an exponent makes
another kind of number even where the value is whole, and digits that do not fit
into 64 bits are left over, which makes a floating-point number.

Without zeros in front, digits are determined by the number they stand for.
`digits_ofDigits` says so, and it is what turns the run of digits that was read
into the digits of the number that came out.

## Main definitions

* `valueFrom`: The number that digits stand for behind others.

## Theorems

* `digits_ofDigits`: A whole part is the digits of its number.
* `isWhole_digits`: The digits of a number are a whole part.
* `whole_of_readNumber`: Only a run of digits is read as a natural number.
* `readNatural_digits`: The digits of a number are read as that number.
* `exists_of_readNatural`: Nothing else is.
* `readNatural_value`: The two ways in which reading a value can come out.
-/

namespace OData

namespace Json

open Text

section

variable {c : Char} {ds w rest : List Char} {n : Nat}

/-- The number that digits stand for behind those of another number. -/
def valueFrom (n : Nat) (ds : List Char) : Nat :=
  ds.foldl (fun n c => 10 * n + digitValue c) n

/-! ### Digits and their number -/

theorem toNat_of_isDigit (h : c.isDigit = true) : 48 ≤ c.toNat ∧ c.toNat ≤ 57 := by
  simp only [Char.isDigit, Bool.and_eq_true, decide_eq_true_eq] at h
  exact h

theorem digitValue_lt (h : c.isDigit = true) : digitValue c < 10 := by
  have hrange := toNat_of_isDigit h
  show c.toNat - 48 < 10
  omega

theorem digitChar_digitValue (h : c.isDigit = true) : (digitValue c).digitChar = c := by
  have hrange := toNat_of_isDigit h
  apply Char.toNat_inj.mp
  rw [Nat.toNat_digitChar_of_lt_ten (digitValue_lt h)]
  show 48 + (c.toNat - 48) = c.toNat
  omega

theorem digits_digitValue (h : c.isDigit = true) : digits (digitValue c) = [c] := by
  rw [digits, Nat.toDigits_of_lt_base (digitValue_lt h), digitChar_digitValue h]

/-- Digits behind a positive number are the digits of a greater one. -/
theorem digits_append (hn : 0 < n) (hds : AllDigits ds) :
    digits n ++ ds = digits (valueFrom n ds) := by
  induction ds generalizing n with
  | nil => exact List.append_nil _
  | cons c ds ih =>
      rcases List.forall_mem_cons.mp hds with ⟨hc, hds⟩
      have hlast : digits n ++ [c] = digits (10 * n + digitValue c) := by
        rw [← digits_digitValue hc]
        exact Nat.toDigits_append_toDigits (by decide) hn (digitValue_lt hc)
      rw [List.append_cons, hlast]
      exact ih (by omega) hds

/-- A whole part is the digits of its number. -/
theorem digits_ofDigits (h : IsWhole w) : digits (ofDigits w) = w := by
  cases h with
  | zero => rfl
  | @digits c ds hc hzero hds =>
      have hpos : 0 < digitValue c := by
        have hrange := toNat_of_isDigit hc
        have hne : c.toNat ≠ 48 := fun h => hzero (Char.toNat_inj.mp h)
        show 0 < c.toNat - 48
        omega
      have happend := digits_append hpos hds
      rw [digits_digitValue hc] at happend
      have hfrom : ofDigits (c :: ds) = valueFrom (digitValue c) ds := by
        rw [ofDigits, List.foldl_cons, Nat.mul_zero, Nat.zero_add]
        rfl
      rw [hfrom, ← happend]
      rfl

theorem isWhole_of_ne (hds : AllDigits ds) (hnil : ds ≠ []) (hzero : ∀ d es, ds ≠ '0' :: d :: es) :
    IsWhole ds := by
  cases ds with
  | nil => exact absurd rfl hnil
  | cons c ds =>
      rcases List.forall_mem_cons.mp hds with ⟨hc, hds⟩
      by_cases hhead : c = '0'
      · subst hhead
        cases ds with
        | nil => exact .zero
        | cons d es => exact absurd rfl (hzero d es)
      · exact .digits hc hhead hds

theorem IsWhole.append (h : IsWhole w) (hzero : w ≠ ['0']) (hds : AllDigits ds) :
    IsWhole (w ++ ds) := by
  cases h with
  | zero => exact absurd rfl hzero
  | digits hc hne hw => exact .digits hc hne (List.forall_mem_append.mpr ⟨hw, hds⟩)

/-- The digits of a number are a whole part. -/
theorem isWhole_digits (n : Nat) : IsWhole (digits n) := by
  induction n using Nat.strongRecOn with
  | _ n ih =>
      rw [digits, Nat.toDigits_eq_if (by decide)]
      split
      · rename_i hn
        by_cases hzero : n = 0
        · rw [hzero]
          exact .zero
        · refine .digits ?_ (fun h => hzero (Nat.digitChar_eq_zero.mp h)) AllDigits.nil
          rw [Nat.isDigit_digitChar, decide_eq_true hn]
      · rename_i hn
        refine (ih (n / 10) (by omega)).append (fun h => ?_) (List.forall_mem_singleton.mpr ?_)
        · -- Only zero is written with a zero alone.
          have hzero : n / 10 = 0 := by rw [← ofDigits_digits (n / 10), h]; rfl
          omega
        · rw [Nat.isDigit_digitChar]
          exact decide_eq_true (Nat.mod_lt n (by decide))

/-! ### What fits -/

theorem le_valueFrom (n : Nat) (ds : List Char) : n ≤ valueFrom n ds := by
  induction ds generalizing n with
  | nil => exact Nat.le_refl n
  | cons c ds ih =>
      have hstep : n ≤ 10 * n + digitValue c := by omega
      exact Nat.le_trans hstep (ih _)

theorem fit_of_lt (h : valueFrom n ds < significandRange) : fit n ds = (valueFrom n ds, []) := by
  induction ds generalizing n with
  | nil => rfl
  | cons c ds ih =>
      have hlt : 10 * n + digitValue c < significandRange :=
        Nat.lt_of_le_of_lt (le_valueFrom _ ds) h
      simp only [fit, hlt, if_true]
      exact ih h

theorem valueFrom_of_fit (h : (fit n ds).2 = []) : (fit n ds).1 = valueFrom n ds := by
  induction ds generalizing n with
  | nil => rfl
  | cons c ds ih =>
      simp only [fit] at h ⊢
      split at h
      · rename_i hlt
        rw [if_pos hlt]
        exact ih h
      · exact absurd h (List.cons_ne_nil c ds)

/-! ### Reading numbers -/

theorem span_whole (hw : AllDigits w) (hrest : Stops rest) :
    spanDigits (w ++ rest) = (w, rest) := by
  rcases OData.Number.span_digits hw fun c hc => (hrest c hc).1 with ⟨htake, hdrop⟩
  rw [spanDigits, htake, hdrop]

/-- Where a run of digits stops, the number is a whole one. -/
theorem readRest_of_stops (h : Stops rest) :
    readRest false n 0 rest = .ok (.natural n, rest) := by
  unfold readRest
  split
  · exact absurd rfl (h '.' rfl).2.1
  · have he : rest.head? ≠ some 'e' := fun heq => (h 'e' heq).2.2.1 rfl
    have hE : rest.head? ≠ some 'E' := fun heq => (h 'E' heq).2.2.2 rfl
    rw [if_pos ⟨rfl, he, hE⟩]
    rfl

theorem readNumber_digits (hn : n < significandRange) (h : Stops rest) :
    readNumber false (digits n ++ rest) = .ok (.natural n, rest) := by
  have hwhole := isWhole_digits n
  have hall : AllDigits (digits n) := fun _ => isDigit_of_mem_digits
  have hfit : fit 0 (digits n) = (n, []) := by
    have hvalue : valueFrom 0 (digits n) = n := ofDigits_digits n
    rw [fit_of_lt (by rw [hvalue]; exact hn), hvalue]
  unfold readNumber
  rw [span_whole hall h]
  simp only
  split
  · rename_i heq
    exact absurd heq (digits_ne_nil n)
  · rename_i heq
    rw [heq] at hwhole
    cases hwhole with
    | digits _ hzero _ => exact absurd rfl hzero
  · rw [hfit]
    exact readRest_of_stops h

section

variable {b : Bool} {significand : Nat} {exponent : Int} {cs after : List Char}

theorem eq_of_withRest_natural {x : Except Fault Number}
    (h : withRest after x = .ok (.natural n, rest)) : x = .ok (.natural n) ∧ after = rest := by
  cases x with
  | error f => cases h
  | ok m =>
      cases h
      exact ⟨rfl, rfl⟩

theorem ofParts_ne_natural : ofParts b significand exponent ≠ .ok (.natural n) := by
  intro h
  unfold ofParts at h
  split at h <;> cases h

theorem ofExponent_ne_natural {down : Bool} {e : Nat} :
    ofExponent b significand exponent down e ≠ .ok (.natural n) := by
  intro h
  unfold ofExponent at h
  split at h
  · unfold ofHugeExponent at h
    split at h <;> cases h
  · exact ofParts_ne_natural h

/-- Behind a point or an exponent there is no natural number. -/
theorem readExponent_ne_natural :
    readExponent b significand exponent cs ≠ .ok (.natural n, rest) := by
  intro h
  unfold readExponent at h
  split at h
  · exact ofParts_ne_natural (eq_of_withRest_natural h).1
  · split at h
    · simp only at h
      split at h
      · cases h
      · exact ofExponent_ne_natural (eq_of_withRest_natural h).1
    · exact ofParts_ne_natural (eq_of_withRest_natural h).1

theorem readFraction_ne_natural :
    readFraction b significand exponent cs ≠ .ok (.natural n, rest) := by
  intro h
  simp only [readFraction] at h
  split at h
  · cases h
  · exact readExponent_ne_natural h

theorem ofInteger_natural (h : ofInteger b significand = .ok (.natural n)) :
    b = false ∧ significand = n := by
  cases b with
  | false =>
      cases h
      exact ⟨rfl, rfl⟩
  | true =>
      unfold ofInteger at h
      split at h
      · contradiction
      · split at h
        · cases h
        · exact absurd h ofParts_ne_natural

theorem readRest_natural {leftOver : Nat}
    (h : readRest b significand leftOver cs = .ok (.natural n, rest)) :
    b = false ∧ leftOver = 0 ∧ significand = n ∧ cs = rest ∧
      ∀ c ∈ rest.head?, c ≠ '.' ∧ c ≠ 'e' ∧ c ≠ 'E' := by
  unfold readRest at h
  split at h
  · exact absurd h readFraction_ne_natural
  · rename_i hpoint
    split at h
    · rename_i hplain
      rcases eq_of_withRest_natural h with ⟨hinteger, rfl⟩
      rcases ofInteger_natural hinteger with ⟨hsign, hvalue⟩
      refine ⟨hsign, hplain.1, hvalue, rfl, fun c hc => ⟨?_, ?_, ?_⟩⟩
      · rintro rfl
        rcases List.head?_eq_some_iff.mp hc with ⟨tail, rfl⟩
        exact hpoint tail rfl
      · rintro rfl
        exact hplain.2.1 hc
      · rintro rfl
        exact hplain.2.2 hc
    · exact absurd h readExponent_ne_natural

/-- Only a run of digits without a sign is read as a natural number. -/
theorem whole_of_readNumber (h : readNumber b cs = .ok (.natural n, rest)) :
    b = false ∧ cs = digits n ++ rest ∧ n < significandRange ∧ Stops rest := by
  have hall : AllDigits (cs.takeWhile Char.isDigit) := fun c hc => List.mem_takeWhile_imp hc
  have hcs : cs = cs.takeWhile Char.isDigit ++ cs.dropWhile Char.isDigit :=
    List.takeWhile_append_dropWhile.symm
  simp only [readNumber, spanDigits] at h
  split at h
  · cases h
  · cases h
  · rename_i hnil hzero
    rcases readRest_natural h with ⟨hsign, hleft, hvalue, hrest, hmarks⟩
    have hwhole : IsWhole (cs.takeWhile Char.isDigit) := isWhole_of_ne hall hnil hzero
    have hfit := valueFrom_of_fit (List.length_eq_zero_iff.mp hleft)
    have hdigits : cs.takeWhile Char.isDigit = digits n := by
      rw [← digits_ofDigits hwhole, ← hvalue, hfit]
      rfl
    refine ⟨hsign, by rw [hdigits, hrest] at hcs; exact hcs, ?_, ?_⟩
    · rw [← hvalue]
      exact fit_lt (by decide) _
    · intro c hc
      have hdigit := List.head?_dropWhile_not Char.isDigit cs
      rw [hrest, Option.mem_def.mp hc] at hdigit
      exact ⟨hdigit, hmarks c hc⟩

end

/-! ### The value of a cap -/

theorem isValue_digits (n : Nat) : IsValue (digits n) := by
  have hunsigned := IsUnsigned.parts (isWhole_digits n) .none .none
  rw [List.append_nil, List.append_nil] at hunsigned
  exact .numeral (.unsigned hunsigned)

/-- The digits of a number are read as that number. -/
theorem readNatural_digits {e : String} {b : List Char} (hb : Blanks b) (hn : n < significandRange)
    (h : Stops rest) : readNatural e (b ++ (digits n ++ rest)) = .ok (n, rest) := by
  have hread := readNumber_digits hn h
  have hblanks : skipBlanks (b ++ (digits n ++ rest)) = digits n ++ rest :=
    skipBlanks_value hb (isValue_digits n)
  have hall : AllDigits (digits n) := fun _ => isDigit_of_mem_digits
  cases hds : digits n with
  | nil => exact absurd hds (digits_ne_nil n)
  | cons c ds =>
      rw [hds] at hread hblanks hall
      have hc : c.isDigit = true := hall c List.mem_cons_self
      have hminus : c ≠ '-' := ne_of_isDigit hc rfl
      rw [List.cons_append] at hread hblanks
      simp only [readNatural, List.cons_append, hblanks, hminus, hc, if_false, if_true, hread]
      rfl

theorem eq_of_natural? {e : String} {m : Number} {after : List Char}
    (h : (m.natural? e).map (·, after) = .ok (n, rest)) : m = .natural n ∧ after = rest := by
  cases m with
  | natural k =>
      cases h
      exact ⟨rfl, rfl⟩
  | negative k | float s x => cases h

/-- Nothing but the digits of a number is read as a natural number. -/
theorem exists_of_readNatural {e : String} {cs : List Char} (h : readNatural e cs = .ok (n, rest)) :
    ∃ b, Blanks b ∧ cs = b ++ (digits n ++ rest) ∧ n < significandRange ∧ Stops rest := by
  simp only [readNatural] at h
  split at h
  · cases h
  rename_i c cs' hcs
  split at h
  · cases h
  · cases h
  rename_i m after hnumber
  rcases eq_of_natural? h with ⟨rfl, rfl⟩
  split at hnumber
  · -- What is read behind a sign is not natural.
    cases (whole_of_readNumber (Option.some.inj hnumber)).1
  split at hnumber
  · rcases whole_of_readNumber (Option.some.inj hnumber) with ⟨-, heq, hn, hrest⟩
    rcases exists_of_skipBlanks (hcs.trans heq) with ⟨b, hb, rfl⟩
    exact ⟨b, hb, rfl, hn, hrest⟩
  · cases hnumber

/-- A value is the digits of a number that fits and is read as it, or it is
    refused. -/
theorem readNatural_value (e : String) {b v : List Char} (hb : Blanks b) (hv : IsValue v)
    (hrest : Stops rest) :
    (∃ n, n < significandRange ∧ v = digits n ∧ readNatural e (b ++ (v ++ rest)) = .ok (n, rest)) ∨
      (∀ n < significandRange, v ≠ digits n) ∧
        ∃ fault, readNatural e (b ++ (v ++ rest)) = .error fault := by
  cases h : readNatural e (b ++ (v ++ rest)) with
  | error fault =>
      refine .inr ⟨?_, fault, rfl⟩
      rintro n hn rfl
      cases (readNatural_digits hb hn hrest).symm.trans h
  | ok p =>
      rcases exists_of_readNatural h with ⟨b', hb', heq, hn, hrest'⟩
      have hvalue : v ++ rest = digits p.1 ++ p.2 := by
        rw [← skipBlanks_value hb hv, heq, skipBlanks_value hb' (isValue_digits p.1)]
      rcases eq_of_append_eq hv (isValue_digits p.1) hrest hrest' hvalue with ⟨hdigits, hrests⟩
      exact .inl ⟨p.1, hn, hdigits, by rw [hrests]⟩

end

end Json

end OData
