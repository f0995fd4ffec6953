import Mathlib.Tactic.Ring
import OData.Number

/-!
# What Numbers Denote

A number denotes a rational, its integer over a power of ten, and equality of
numbers compares just that. The executable test never builds the power. It
takes the trailing zeros out of both integers, and what remains can only agree
if the exponents do.

All layouts of a literal are a mantissa, which is a run of digits with at most
one point in it, and perhaps an exponent. `Spells` says so, and which rational
such a text stands for. One reader serves them all. Where zeros were filled in
after the last digit, nothing tells them from digits of the integer, so the pair
that is read may be another one than was written, but it is an equal one.

## Main definitions

* `Number.value`: The rational that a number denotes.
* `Number.mantissa`: Digits with a point before the last of them.
* `Number.Spells`: The literals of positive numbers, with their rationals.
* `Number.ofLiteral?`: The number that a literal is read as.

## Theorems

* `Number.same_iff_value_eq`: Numbers are equal when they denote one rational.
* `Number.parts_mantissa`: A mantissa is read back.
* `Number.spells_layout`: Every layout stands for the digits and the scale it
  was made from.
* `Number.Spells.ofUnsigned?_eq`: What is read is what the text stands for.
* `Number.ofLiteral?_text`: A literal is read as a number equal to the one that
  was written.
-/

namespace OData

open Text

/-- The sign in front of a text, and the text behind it. -/
def Text.splitSign : List Char → Int × List Char
  | '-' :: cs => (-1, cs)
  | '+' :: cs => (1, cs)
  | cs => (1, cs)

theorem Text.splitSign_of_ne {c : Char} {cs : List Char} (hminus : c ≠ '-') (hplus : c ≠ '+') :
    splitSign (c :: cs) = (1, c :: cs) := by
  rw [splitSign]
  · rintro _ ⟨⟩
    exact hminus rfl
  · rintro _ ⟨⟩
    exact hplus rfl

theorem Text.splitSign_of_isDigit {c : Char} {cs : List Char} (hc : c.isDigit = true) :
    splitSign (c :: cs) = (1, c :: cs) :=
  splitSign_of_ne (fun h => absurd (h ▸ hc) (by decide)) fun h => absurd (h ▸ hc) (by decide)

namespace Number

/-- The rational that a number denotes. -/
def value (x : Number) : ℚ :=
  x.int * 10 ^ (-x.scale)

-- Digits taken out of the scale come back as a factor.
theorem ten_zpow_neg_sub (scale : Int) (k : Nat) :
    (10 : ℚ) ^ (-(scale - k)) = 10 ^ k * 10 ^ (-scale) := by
  rw [← zpow_natCast, ← zpow_add₀ (by norm_num)]
  congr 1
  ring

-- A power of ten and a factor that ten does not divide.
theorem stripZeros_spec {n : Nat} (hn : n ≠ 0) :
    n = (stripZeros n).1 * 10 ^ (stripZeros n).2 ∧ (stripZeros n).1 % 10 ≠ 0 := by
  induction n using stripZeros.induct with
  | case1 n h _ _ _ ih =>
      rcases ih (by omega) with ⟨hdiv, hmod⟩
      rw [stripZeros, dif_pos h]
      refine ⟨?_, hmod⟩
      calc
        n = n / 10 * 10 := by omega
        _ = (stripZeros (n / 10)).1 * 10 ^ (stripZeros (n / 10)).2 * 10 := by rw [← hdiv]
        _ = (stripZeros (n / 10)).1 * 10 ^ ((stripZeros (n / 10)).2 + 1) := by
              rw [Nat.pow_succ, Nat.mul_assoc]
  | case2 n h =>
      rw [stripZeros, dif_neg h]
      exact ⟨(Nat.mul_one n).symm, fun hmod => h ⟨hn, hmod⟩⟩

/-- Taking out the zeros leaves an integer that ten does not divide, and the
    same rational. -/
theorem reduced_spec {x : Number} (hx : x.int ≠ 0) :
    x.reduced.value = x.value ∧ ¬ 10 ∣ x.reduced.int := by
  rcases stripZeros_spec (Int.natAbs_ne_zero.mpr hx) with ⟨habs, hmod⟩
  unfold reduced
  rw [if_neg hx]
  generalize stripZeros x.int.natAbs = p at habs hmod
  rcases p with ⟨m, k⟩
  dsimp only at habs hmod ⊢
  have hint : x.int = x.int.sign * m * 10 ^ k := by
    calc
      x.int = x.int.sign * x.int.natAbs := (Int.sign_mul_natAbs x.int).symm
      _ = x.int.sign * m * 10 ^ k := by rw [habs]; push_cast; ring
  constructor
  · calc
      (⟨x.int.sign * m, x.scale - k⟩ : Number).value
        = ((x.int.sign * m * 10 ^ k : Int) : ℚ) * 10 ^ (-x.scale) := by
            rw [value, ten_zpow_neg_sub]; push_cast; ring
      _ = x.value := by rw [← hint, value]
  · intro hdvd
    have hnat := Int.natAbs_dvd_natAbs.mpr hdvd
    rw [Int.natAbs_mul, Int.natAbs_sign_of_ne_zero hx, Nat.one_mul, Int.natAbs_natCast] at hnat
    exact hmod (Nat.mod_eq_zero_of_dvd hnat)

-- The larger power of ten would divide the integer on the other side.
theorem eq_of_value_eq_of_le {x y : Number} (hx : ¬ 10 ∣ x.int) (hle : y.scale ≤ x.scale)
    (h : x.value = y.value) : x = y := by
  obtain ⟨k, hk⟩ := Int.eq_ofNat_of_zero_le (Int.sub_nonneg_of_le hle)
  have hscale : y.scale = x.scale - k := by omega
  have hint : x.int = y.int * 10 ^ k := by
    have hvalue : (x.int : ℚ) * 10 ^ (-x.scale) = y.int * 10 ^ k * 10 ^ (-x.scale) := by
      rw [mul_assoc, ← ten_zpow_neg_sub, ← hscale]
      exact h
    exact_mod_cast mul_right_cancel₀ (zpow_ne_zero _ (by norm_num)) hvalue
  have hzero : k = 0 := by
    by_contra hne
    exact hx (hint ▸ Dvd.dvd.mul_left (dvd_pow_self 10 hne) y.int)
  rw [hzero, pow_zero, mul_one] at hint
  rw [hzero, Nat.cast_zero, Int.sub_zero] at hscale
  cases x
  cases y
  rw [mk.injEq]
  exact ⟨hint, hscale.symm⟩

@[simp]
theorem value_eq_zero_iff {x : Number} : x.value = 0 ↔ x.int = 0 := by
  rw [value, mul_eq_zero, or_iff_left (zpow_ne_zero _ (by norm_num)), Int.cast_eq_zero]

/-- Numbers are equal exactly when they denote one rational. -/
theorem same_iff_value_eq {x y : Number} : x.same y = true ↔ x.value = y.value := by
  have hzero {x : Number} (hx : x.int = 0) : x.reduced = ⟨0, 0⟩ := if_pos hx
  rw [same, beq_iff_eq]
  by_cases hx : x.int = 0
  · rw [hzero hx, value_eq_zero_iff.mpr hx, eq_comm, @eq_comm _ 0, value_eq_zero_iff]
    refine ⟨fun h => ?_, hzero⟩
    by_contra hy
    exact (reduced_spec hy).2 (h ▸ dvd_zero 10)
  · by_cases hy : y.int = 0
    · rw [hzero hy, value_eq_zero_iff.mpr hy, value_eq_zero_iff]
      refine ⟨fun h => ?_, hzero⟩
      exact absurd (h ▸ dvd_zero 10) (reduced_spec hx).2
    · rcases reduced_spec hx with ⟨hxvalue, hxdvd⟩
      rcases reduced_spec hy with ⟨hyvalue, hydvd⟩
      rw [← hxvalue, ← hyvalue]
      refine ⟨congrArg value, fun h => ?_⟩
      rcases Int.le_total y.reduced.scale x.reduced.scale with hle | hle
      · exact eq_of_value_eq_of_le hxdvd hle h
      · exact (eq_of_value_eq_of_le hydvd hle h.symm).symm

/-- Digits with a point before the last of them, if there is anything behind
    it. -/
def mantissa (whole fraction : List Char) : List Char :=
  if fraction = [] then whole else whole ++ '.' :: fraction

/-- The exponents that are written behind a mantissa. -/
inductive IsExponent : List Char → Int → Prop where
  | none : IsExponent [] 0
  | zeros (n : Nat) : IsExponent ('e' :: '+' :: digits n) n
  | power (n : Int) : IsExponent ('E' :: (signed n).toList) n

/-- The literals of positive numbers, and the rationals they stand for. -/
inductive Spells : List Char → ℚ → Prop where
  | mk {whole fraction exponent : List Char} {n : Int} (hne : whole ≠ [])
      (hwhole : ∀ c ∈ whole, c.isDigit = true) (hfraction : ∀ c ∈ fraction, c.isDigit = true)
      (hexponent : IsExponent exponent n) :
      Spells (mantissa whole fraction ++ exponent)
        (ofDigits (whole ++ fraction) * 10 ^ (n - fraction.length))

/-- The digits in front of the point, those behind it, and what follows. -/
def parts (cs : List Char) : List Char × List Char × List Char :=
  let whole := cs.takeWhile Char.isDigit
  match cs.dropWhile Char.isDigit with
  | '.' :: rest => (whole, rest.takeWhile Char.isDigit, rest.dropWhile Char.isDigit)
  | rest => (whole, [], rest)

/-- The exponent behind a mantissa. -/
def exponent? : List Char → Option Int
  | [] => some 0
  | c :: cs => if c = 'e' ∨ c = 'E' then integerOfText? cs else none

/-- The number that a literal without a sign is read as. -/
def ofUnsigned? (cs : List Char) : Option Number :=
  match parts cs with
  | (whole, fraction, rest) =>
    (naturalOfText? (whole ++ fraction)).bind fun n =>
      (exponent? rest).map fun exponent => ⟨n, fraction.length - exponent⟩

/-- The number that a literal is read as. -/
def ofLiteral? (cs : List Char) : Option Number :=
  (ofUnsigned? (splitSign cs).2).map fun x => ⟨(splitSign cs).1 * x.int, x.scale⟩

variable {ds whole fraction rest : List Char}

-- A mark that ends a run of digits, or the end of the text.
theorem span_digits (hds : ∀ c ∈ ds, c.isDigit = true)
    (hrest : ∀ c ∈ rest.head?, c.isDigit = false) :
    (ds ++ rest).takeWhile Char.isDigit = ds ∧ (ds ++ rest).dropWhile Char.isDigit = rest := by
  rw [List.takeWhile_append_of_pos hds, List.dropWhile_append_of_pos hds]
  cases rest with
  | nil => exact ⟨List.append_nil ds, rfl⟩
  | cons c cs =>
      have hc : ¬ c.isDigit = true := ne_true_of_eq_false (hrest c rfl)
      rw [List.takeWhile_cons_of_neg hc, List.dropWhile_cons_of_neg hc]
      exact ⟨List.append_nil ds, rfl⟩

theorem parts_mantissa (hwhole : ∀ c ∈ whole, c.isDigit = true)
    (hfraction : ∀ c ∈ fraction, c.isDigit = true)
    (hrest : ∀ c ∈ rest.head?, c.isDigit = false ∧ c ≠ '.') :
    parts (mantissa whole fraction ++ rest) = (whole, fraction, rest) := by
  have hstop : ∀ c ∈ rest.head?, c.isDigit = false := fun c hc => (hrest c hc).1
  unfold parts mantissa
  by_cases hnone : fraction = []
  · rcases span_digits hwhole hstop with ⟨htake, hdrop⟩
    rw [if_pos hnone, htake, hdrop, hnone]
    split
    · exact absurd rfl (hrest '.' rfl).2
    · rfl
  · have hpoint : ∀ c ∈ ('.' :: (fraction ++ rest)).head?, c.isDigit = false := by
      rintro _ ⟨⟩
      rfl
    rcases span_digits hwhole hpoint with ⟨htake, hdrop⟩
    rcases span_digits hfraction hstop with ⟨htake', hdrop'⟩
    rw [if_neg hnone, List.append_assoc, List.cons_append, htake, hdrop]
    simp only [htake', hdrop']

theorem naturalOfText?_digits (hne : ds ≠ []) (hds : ∀ c ∈ ds, c.isDigit = true) :
    naturalOfText? ds = some (ofDigits ds) := by
  cases ds with
  | nil => exact absurd rfl hne
  | cons c cs =>
      rcases List.forall_mem_cons.mp hds with ⟨hc, hcs⟩
      have hall : (c.isDigit && cs.all fun d => d.isDigit || d == '_') = true := by
        rw [hc, Bool.true_and, List.all_eq_true]
        exact fun d hd => by rw [hcs d hd, Bool.true_or]
      rw [naturalOfText?, if_pos hall, List.filter_eq_self.mpr hcs]

-- A digit is neither sign, so only one of the signs in front is dropped.
theorem integerOfText?_digits (hne : ds ≠ []) (hds : ∀ c ∈ ds, c.isDigit = true) :
    integerOfText? ds = some (ofDigits ds : Int) ∧
      integerOfText? ('-' :: ds) = some (-(ofDigits ds : Int)) ∧
      integerOfText? ('+' :: ds) = some (ofDigits ds : Int) := by
  have hread := naturalOfText?_digits hne hds
  cases ds with
  | nil => exact absurd rfl hne
  | cons c cs =>
      have hc := hds c List.mem_cons_self
      -- None of the patterns with a sign applies.
      have hsign {d : Char} (hd : d.isDigit = false) (tail : List Char) : c :: cs ≠ d :: tail := by
        rintro ⟨⟩
        exact Bool.false_ne_true (hd.symm.trans hc)
      have hdrop : dropPlus (c :: cs) = c :: cs := by
        rw [dropPlus]
        · exact fun _ => hsign rfl _
        · exact hsign rfl
      have hdrop' : dropPlus ('+' :: c :: cs) = c :: cs := by
        rw [dropPlus]
        exact hsign rfl
      refine ⟨?_, ?_, ?_⟩
      · rw [integerOfText?, hdrop, hread]
        · rfl
        · exact fun _ => hsign rfl _
        · exact hsign rfl
      · rw [integerOfText?, hread]
        · rfl
        · exact hsign rfl
      · rw [integerOfText?, hdrop', hread]
        · rfl
        · nofun
        · nofun

@[simp]
theorem integerOfText?_signed (n : Int) : integerOfText? (signed n).toList = some n := by
  have hds : ∀ c ∈ digits n.natAbs, c.isDigit = true := fun _ => isDigit_of_mem_digits
  rcases integerOfText?_digits (digits_ne_nil n.natAbs) hds with ⟨hpos, hneg, -⟩
  rw [ofDigits_digits] at hpos hneg
  rw [signed, decimal, String.toList_append, String.toList_ofList]
  by_cases hn : n < 0
  · rw [if_pos hn]
    refine hneg.trans (congrArg some ?_)
    omega
  · rw [if_neg hn]
    refine hpos.trans (congrArg some ?_)
    omega

namespace IsExponent

variable {cs : List Char} {n : Int}

theorem exponent?_eq (h : IsExponent cs n) : exponent? cs = some n := by
  cases h with
  | none => rfl
  | zeros n =>
      have hread := (integerOfText?_digits (digits_ne_nil n) fun _ => isDigit_of_mem_digits).2.2
      rw [ofDigits_digits] at hread
      exact hread
  | power n => exact integerOfText?_signed n

theorem head_stops (h : IsExponent cs n) : ∀ c ∈ cs.head?, c.isDigit = false ∧ c ≠ '.' := by
  cases h with
  | none => nofun
  | zeros n | power n =>
      rintro _ ⟨⟩
      decide

theorem count_dash_le (h : IsExponent cs n) : cs.count '-' ≤ 1 := by
  have hdigits (n : Nat) : (digits n).count '-' = 0 :=
    List.count_eq_zero.mpr fun hmem => absurd (isDigit_of_mem_digits hmem) (by decide)
  cases h with
  | none => exact Nat.zero_le 1
  | zeros n =>
      rw [List.count_cons_of_ne (by decide), List.count_cons_of_ne (by decide), hdigits]
      exact Nat.zero_le 1
  | power n =>
      rw [List.count_cons_of_ne (by decide), signed, String.toList_append, List.count_append,
        decimal, String.toList_ofList, hdigits]
      split <;> decide

end IsExponent

namespace Spells

variable {cs : List Char} {q : ℚ}

theorem head_isDigit (h : Spells cs q) : ∃ c rest, cs = c :: rest ∧ c.isDigit = true := by
  rcases h with ⟨hne, hwhole, -, -⟩
  rename_i whole fraction exponent n
  cases whole with
  | nil => exact absurd rfl hne
  | cons c rest =>
      have hc := hwhole c List.mem_cons_self
      unfold mantissa
      split
      · exact ⟨c, rest ++ exponent, rfl, hc⟩
      · exact ⟨c, rest ++ '.' :: fraction ++ exponent, rfl, hc⟩

theorem count_dash_le (h : Spells cs q) : cs.count '-' ≤ 1 := by
  rcases h with ⟨-, hwhole, hfraction, hexponent⟩
  rename_i whole fraction exponent n
  have hmantissa : (mantissa whole fraction).count '-' = 0 := by
    refine List.count_eq_zero.mpr fun hmem => ?_
    unfold mantissa at hmem
    split at hmem
    · exact absurd (hwhole _ hmem) (by decide)
    · rcases List.mem_append.mp hmem with hmem | hmem
      · exact absurd (hwhole _ hmem) (by decide)
      · rcases List.mem_cons.mp hmem with heq | hmem
        · exact absurd heq (by decide)
        · exact absurd (hfraction _ hmem) (by decide)
  rw [List.count_append, hmantissa, Nat.zero_add]
  exact hexponent.count_dash_le

theorem ofUnsigned?_eq (h : Spells cs q) : ∃ x, ofUnsigned? cs = some x ∧ x.value = q := by
  rcases h with ⟨hne, hwhole, hfraction, hexponent⟩
  rename_i whole fraction exponent n
  have hdigits : ∀ c ∈ whole ++ fraction, c.isDigit = true := by
    intro c hc
    exact (List.mem_append.mp hc).elim (hwhole c) (hfraction c)
  have hread := naturalOfText?_digits (List.append_ne_nil_of_left_ne_nil hne fraction) hdigits
  refine ⟨⟨ofDigits (whole ++ fraction), fraction.length - n⟩, ?_, ?_⟩
  · rw [ofUnsigned?, parts_mantissa hwhole hfraction hexponent.head_stops]
    simp only [hread, hexponent.exponent?_eq, Option.bind_some, Option.map_some]
  · rw [value, Int.cast_natCast, Int.neg_sub]

end Spells

@[simp]
theorem ofDigits_append_zeros (ds : List Char) (k : Nat) :
    ofDigits (ds ++ List.replicate k '0') = ofDigits ds * 10 ^ k := by
  induction k with
  | zero => rw [List.replicate_zero, List.append_nil, Nat.pow_zero, Nat.mul_one]
  | succ k ih =>
      have hlast : ofDigits (ds ++ List.replicate k '0' ++ ['0']) =
          10 * ofDigits (ds ++ List.replicate k '0') := by
        rw [ofDigits, List.foldl_append]
        rfl
      rw [List.replicate_succ', ← List.append_assoc, hlast, ih, Nat.pow_succ]
      ring

section

variable (hds : ∀ c ∈ ds, c.isDigit = true)

include hds

theorem spells_pointed {places : Nat} (hplaces : 0 < places) :
    Spells (pointed ds places) (ofDigits ds * 10 ^ (-(places : Int))) := by
  have hall : ∀ c ∈ ds.leftpad (places + 1) '0', c.isDigit = true := forall_mem_leftpad rfl hds
  have hlength : places + 1 ≤ (ds.leftpad (places + 1) '0').length := by
    rw [List.length_leftpad]
    exact Nat.le_max_left _ _
  have hvalue := ofDigits_leftpad (places + 1) ds
  unfold pointed
  generalize ds.leftpad (places + 1) '0' = all at hall hlength hvalue ⊢
  have hfraction : (all.drop (all.length - places)).length = places := by
    rw [List.length_drop]
    omega
  have hwhole : all.take (all.length - places) ≠ [] := by
    refine List.ne_nil_of_length_pos ?_
    rw [List.length_take]
    omega
  have hbehind : ∀ c ∈ all.drop (all.length - places), c.isDigit = true :=
    fun c hc => hall c (List.mem_of_mem_drop hc)
  have hspelled := Spells.mk hwhole (fun c hc => hall c (List.mem_of_mem_take hc)) hbehind
    IsExponent.none
  have hpoint : all.drop (all.length - places) ≠ [] :=
    List.ne_nil_of_length_pos (by omega)
  rw [List.take_append_drop, hvalue, hfraction, Int.zero_sub, List.append_nil, mantissa,
    if_neg hpoint] at hspelled
  exact hspelled

variable (hne : ds ≠ [])

include hne

-- The point goes behind the first digit, and the exponent makes up for it.
theorem spells_scientific (scale : Int) :
    Spells (scientific ds scale) (ofDigits ds * 10 ^ (-scale)) := by
  cases ds with
  | nil => exact absurd rfl hne
  | cons d fraction =>
      rcases List.forall_mem_cons.mp hds with ⟨hd, hfraction⟩
      have hspelled := Spells.mk (List.cons_ne_nil d []) (List.forall_mem_singleton.mpr hd)
        hfraction (IsExponent.power ((d :: fraction).length - 1 - scale))
      have hexponent : ((d :: fraction).length : Int) - 1 - scale - fraction.length = -scale := by
        rw [List.length_cons]
        omega
      rw [hexponent, List.singleton_append] at hspelled
      cases fraction with
      | nil => exact hspelled
      | cons e es => exact hspelled

/-- Every layout stands for the digits and the scale it was made from. -/
theorem spells_layout (scale : Int) : Spells (layout ds scale) (ofDigits ds * 10 ^ (-scale)) := by
  have hnone : ∀ c ∈ ([] : List Char), c.isDigit = true := nofun
  unfold layout
  split
  · exact spells_scientific hds hne scale
  · split
    · have hspelled := Spells.mk hne hds hnone (IsExponent.zeros (-scale).toNat)
      have hexponent : ((-scale).toNat : Int) - ([] : List Char).length = -scale := by
        rw [List.length_nil]
        omega
      rw [hexponent, List.append_nil] at hspelled
      exact hspelled
    · split
      · -- The zeros count as digits of the integer from now on.
        have hzeros : ∀ c ∈ ds ++ List.replicate (-scale).toNat '0', c.isDigit = true := by
          intro c hc
          rcases List.mem_append.mp hc with hc | hc
          · exact hds c hc
          · rw [List.eq_of_mem_replicate hc]
            rfl
        have hspelled := Spells.mk (List.append_ne_nil_of_left_ne_nil hne _) hzeros hnone
          IsExponent.none
        have hpow : (10 : ℚ) ^ (-scale).toNat = 10 ^ (-scale) := by
          rw [← zpow_natCast]
          congr 1
          omega
        rw [List.append_nil, List.append_nil, ofDigits_append_zeros, List.length_nil,
          Nat.cast_zero, Int.sub_zero, zpow_zero, mul_one, Nat.cast_mul, Nat.cast_pow] at hspelled
        rw [← hpow]
        exact hspelled
      · have hplaces : (scale.toNat : Int) = scale := by omega
        have hspelled := spells_pointed hds (show 0 < scale.toNat by omega)
        rw [hplaces] at hspelled
        exact hspelled

end

theorem spells_abs (x : Number) :
    Spells (layout (digits x.int.natAbs) x.scale) (x.int.natAbs * 10 ^ (-x.scale)) := by
  have hspelled := spells_layout (fun _ => isDigit_of_mem_digits) (digits_ne_nil x.int.natAbs)
    x.scale
  rwa [ofDigits_digits] at hspelled

/-- A literal is a sign and the layout of its digits. -/
theorem splitSign_text {x : Number} (hx : x.int ≠ 0) :
    splitSign x.text.toList = (x.int.sign, layout (digits x.int.natAbs) x.scale) := by
  rcases x.spells_abs.head_isDigit with ⟨c, rest, hlayout, hc⟩
  rw [text, if_neg hx, String.toList_append, String.toList_ofList, hlayout]
  by_cases hneg : x.int < 0
  · rw [if_pos hneg, Int.sign_eq_neg_one_of_neg hneg]
    rfl
  · rw [if_neg hneg, Int.sign_eq_one_of_pos (by omega)]
    exact splitSign_of_isDigit hc

/-- A literal is read as a number equal to the one that was written. -/
theorem ofLiteral?_text (x : Number) :
    ∃ y, ofLiteral? x.text.toList = some y ∧ y.same x = true := by
  by_cases hx : x.int = 0
  · refine ⟨⟨0, 0⟩, ?_, ?_⟩
    · rw [text, if_pos hx]
      rfl
    · rw [same_iff_value_eq, value_eq_zero_iff.mpr hx, value_eq_zero_iff]
  · rcases x.spells_abs.ofUnsigned?_eq with ⟨y, hy, hvalue⟩
    refine ⟨⟨x.int.sign * y.int, y.scale⟩, ?_, ?_⟩
    · rw [ofLiteral?, splitSign_text hx, hy, Option.map_some]
    · rw [same_iff_value_eq]
      calc
        value ⟨x.int.sign * y.int, y.scale⟩ = x.int.sign * y.value := by
          rw [value, value, Int.cast_mul, mul_assoc]
        _ = x.int.sign * (x.int.natAbs * 10 ^ (-x.scale)) := by rw [hvalue]
        _ = ((x.int.sign * x.int.natAbs : Int) : ℚ) * 10 ^ (-x.scale) := by
          rw [Int.cast_mul, Int.cast_natCast, mul_assoc]
        _ = x.value := by rw [Int.sign_mul_natAbs, value]

end Number

end OData
