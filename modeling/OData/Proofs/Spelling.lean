import OData.Proofs.Wellformed

/-!
# What Quoted Texts Stand For

A quoted text is a way to write a text down, and one text can be written in
many ways. `Spells` relates the two: characters stand for themselves, an escape
for the character it names, and a character beyond the first 65536 is two units
that stand side by side. Half of such a pair stands for nothing, so some bodies
that are well formed spell no text.

The reader takes one character at a time, so a proof that what it reads is
spelled by what it read needs to know what may still come in every one of its
states. `SpellsLeft` says that. Reading a unit is the only part with a loop in
it, and `UnitLeft` deals with that loop once, for readers that look at the unit
and for those that do not. What a step can do is said once as well: `step_next`
turns it into `Quoted.Step`, and whatever is proved of a step goes through the
ways listed there.

## Main definitions

* `unitValue`: The value of a unit.
* `Spells`: The inside of a quoted text stands for a text.
* `Quoted.Step`: The ways in which a character takes the machine on.
* `UnitLeft`: What may follow inside of a unit.
* `SpellsLeft`: What may follow inside of a quoted text, and what it adds.

## Theorems

* `step_next`: A step is one of these.
* `spellsLeft_of_next`: One step of the reader, backwards.
* `readQuoted_append`: A text is read from whatever spells it.
* `exists_of_readQuoted`: What is read is spelled by what was read.
-/

namespace OData

namespace Json

open Quoted Text

/-- The value of a unit, given that of the digits before. -/
def unitFrom (value : Nat) (ds : List Char) : Nat :=
  ds.foldl (fun n d => 16 * n + (hexValue? d).getD 0) value

/-- The value of a unit. -/
def unitValue (ds : List Char) : Nat :=
  unitFrom 0 ds

/-- The inside of a quoted text stands for a text. Units that are halves of a
    character stand in pairs. -/
inductive Spells : List Char → List Char → Prop where
  | nil : Spells [] []
  | plain {c : Char} {cs s : List Char} (hquote : c ≠ doubleQuote) (hescape : c ≠ backslash)
      (hcontrol : 0x20 ≤ c.toNat) (h : Spells cs s) : Spells (c :: cs) (c :: s)
  | short {c d : Char} {cs s : List Char} (hc : shortEscape? c = some d) (h : Spells cs s) :
      Spells (backslash :: c :: cs) (d :: s)
  | unit {ds cs s : List Char} (hds : IsUnit ds) (hlow : isLow (unitValue ds) = false)
      (hhigh : isHigh (unitValue ds) = false) (h : Spells cs s) :
      Spells (backslash :: 'u' :: (ds ++ cs)) (Char.ofNat (unitValue ds) :: s)
  | pair {ds es cs s : List Char} (hds : IsUnit ds) (hes : IsUnit es)
      (hhigh : isHigh (unitValue ds) = true) (hlow : isLow (unitValue es) = true)
      (h : Spells cs s) :
      Spells (backslash :: 'u' :: (ds ++ backslash :: 'u' :: (es ++ cs)))
        (paired (unitValue ds) (unitValue es) :: s)

section

variable {c : Char} {cs ds : List Char}

theorem utf8Size_of_hex (h : (hexValue? c).isSome = true) : c.utf8Size = 1 := by
  have hle : c ≤ 'f' := by
    unfold hexValue? at h
    split at h
    · rename_i hc
      exact Char.le_trans hc.2 (by decide)
    · split at h
      · rename_i hc
        exact hc.2
      · split at h
        · rename_i hc
          exact Char.le_trans hc.2 (by decide)
        · cases h
  exact Char.utf8Size_eq_one_iff.mpr (UInt32.le_trans hle (by decide))

theorem IsUnit.ne_nil (h : IsUnit ds) : ds ≠ [] := by
  rintro rfl
  exact absurd h.1 (by decide)

theorem not_isLow_of_isHigh {n : Nat} (h : isHigh n = true) : isLow n = false := by
  simp only [isHigh, isLow, Bool.and_eq_true, decide_eq_true_eq, Bool.and_eq_false_iff,
    decide_eq_false_iff_not] at h ⊢
  omega

theorem ne_u_of_shortEscape {d : Char} (h : shortEscape? c = some d) : c ≠ 'u' := by
  rintro rfl
  cases h

/-! ### Single steps -/

theorem next_plain {b : Bool} (hquote : c ≠ doubleQuote) (hescape : c ≠ backslash)
    (hcontrol : 0x20 ≤ c.toNat) : Quoted.next b c .plain = .goOn .plain (some c) := by
  simp only [Quoted.next, hquote, hescape, Nat.not_lt.mpr hcontrol, if_false]

theorem next_short {b : Bool} {d : Char} (h : shortEscape? c = some d) :
    Quoted.next b c .escape = .goOn .plain (some d) := by
  simp only [Quoted.next, ne_u_of_shortEscape h, if_false, h]

theorem next_digit {b : Bool} {left value : Nat} {high : Option Nat}
    (h : (hexValue? c).isSome = true) :
    Quoted.next b c (.unit (left + 2) false value high) =
      .goOn (.unit (left + 1) false (16 * value + (hexValue? c).getD 0) high) none := by
  have hnone : (hexValue? c).isNone = false := Option.isNone_eq_false_iff.mpr h
  have hleft : left + 2 - c.utf8Size = left + 1 := by rw [utf8Size_of_hex h]; rfl
  simp only [Quoted.next, hleft, hnone, Bool.or_self, ne_eq, Nat.succ_ne_zero, not_false_eq_true,
    if_true]

theorem next_lastDigit {b : Bool} {value : Nat} {high : Option Nat}
    (h : (hexValue? c).isSome = true) :
    Quoted.next b c (.unit 1 false value high) =
      if b then unitRead (16 * value + (hexValue? c).getD 0) high else .goOn .plain none := by
  have hnone : (hexValue? c).isNone = false := Option.isNone_eq_false_iff.mpr h
  have hleft : 1 - c.utf8Size = 0 := by rw [utf8Size_of_hex h]
  simp only [Quoted.next, hleft, hnone, Bool.or_self, ne_eq, not_true_eq_false, if_false,
    Bool.false_eq_true]

/-! ### What a step can do -/

/-- A character is the last one of a unit, and no digit of it was wrong. -/
structure LastDigit (c : Char) (left : Nat) (wrong : Bool) : Prop where
  left_eq : left - c.utf8Size = 0
  wrong_eq : (wrong || (hexValue? c).isNone) = false

/-- The ways in which a character takes the machine on or ends the text. When a
    text is malformed is left open. -/
inductive Quoted.Step (c : Char) : Bool → Quoted.State → Quoted.Outcome → Prop where
  | close {b : Bool} (hc : c = doubleQuote) : Quoted.Step c b .plain .close
  | escape {b : Bool} (hc : c = backslash) : Quoted.Step c b .plain (.goOn .escape none)
  | plain {b : Bool} (hquote : c ≠ doubleQuote) (hescape : c ≠ backslash)
      (hcontrol : 0x20 ≤ c.toNat) : Quoted.Step c b .plain (.goOn .plain (some c))
  | unit {b : Bool} (hc : c = 'u') :
      Quoted.Step c b .escape (.goOn (.unit 4 false 0 none) none)
  | short {b : Bool} {d : Char} (hc : shortEscape? c = some d) :
      Quoted.Step c b .escape (.goOn .plain (some d))
  | digit {b wrong : Bool} {left value : Nat} {high : Option Nat} (hleft : left - c.utf8Size ≠ 0) :
      Quoted.Step c b (.unit left wrong value high)
        (.goOn (.unit (left - c.utf8Size) (wrong || (hexValue? c).isNone) (unitFrom value [c]) high)
          none)
  /-- A unit is passed over. -/
  | passed {wrong : Bool} {left value : Nat} {high : Option Nat} (h : LastDigit c left wrong) :
      Quoted.Step c false (.unit left wrong value high) (.goOn .plain none)
  /-- A unit stands for a character by itself. -/
  | single {wrong : Bool} {left value : Nat} (h : LastDigit c left wrong)
      (hlow : isLow (unitFrom value [c]) = false) (hhigh : isHigh (unitFrom value [c]) = false) :
      Quoted.Step c true (.unit left wrong value none)
        (.goOn .plain (some (Char.ofNat (unitFrom value [c]))))
  /-- A unit is the first of a pair. -/
  | first {wrong : Bool} {left value : Nat} (h : LastDigit c left wrong)
      (hlow : isLow (unitFrom value [c]) = false) (hhigh : isHigh (unitFrom value [c]) = true) :
      Quoted.Step c true (.unit left wrong value none)
        (.goOn (.pairBackslash (unitFrom value [c])) none)
  /-- A unit is the second of a pair. -/
  | second {wrong : Bool} {left value high : Nat} (h : LastDigit c left wrong)
      (hlow : isLow (unitFrom value [c]) = true) :
      Quoted.Step c true (.unit left wrong value (some high))
        (.goOn .plain (some (paired high (unitFrom value [c]))))
  | pairBackslash {b : Bool} {high : Nat} (hc : c = backslash) :
      Quoted.Step c b (.pairBackslash high) (.goOn (.pairUnit high) none)
  | pairUnit {b : Bool} {high : Nat} (hc : c = 'u') :
      Quoted.Step c b (.pairUnit high) (.goOn (.unit 4 false 0 (some high)) none)
  | fail {b : Bool} {q : Quoted.State} : Quoted.Step c b q .fail

theorem step_unitRead {wrong : Bool} {left value : Nat} {high : Option Nat}
    (h : LastDigit c left wrong) :
    Quoted.Step c true (.unit left wrong value high) (unitRead (unitFrom value [c]) high) := by
  cases high with
  | none =>
      simp only [unitRead]
      split
      · exact .fail
      rename_i hlow
      have hlow : isLow (unitFrom value [c]) = false := Bool.eq_false_iff.mpr hlow
      split
      · rename_i hhigh
        exact .first h hlow hhigh
      · rename_i hhigh
        exact .single h hlow (Bool.eq_false_iff.mpr hhigh)
  | some high =>
      simp only [unitRead]
      split
      · rename_i hlow
        exact .second h hlow
      · exact .fail

/-- Every step is one of these. -/
theorem step_next (b : Bool) (c : Char) (q : Quoted.State) :
    Quoted.Step c b q (Quoted.next b c q) := by
  cases q with
  | plain =>
      simp only [Quoted.next]
      split
      · rename_i hc
        exact .close hc
      split
      · rename_i hc
        exact .escape hc
      split
      · exact .fail
      · rename_i hquote hescape hcontrol
        exact .plain hquote hescape (Nat.not_lt.mp hcontrol)
  | escape =>
      simp only [Quoted.next]
      split
      · rename_i hc
        exact .unit hc
      split
      · rename_i d hd
        exact .short hd
      · exact .fail
  | unit left wrong value high =>
      simp only [Quoted.next]
      split
      · rename_i hleft
        exact .digit hleft
      split
      · exact .fail
      rename_i hleft hwrong
      have hlast : LastDigit c left wrong :=
        ⟨Decidable.not_not.mp hleft, Bool.eq_false_iff.mpr hwrong⟩
      cases b with
      | false => exact .passed hlast
      | true => exact step_unitRead hlast
  | pairBackslash high =>
      simp only [Quoted.next]
      split
      · rename_i hc
        exact .pairBackslash hc
      · exact .fail
  | pairUnit high =>
      simp only [Quoted.next]
      split
      · rename_i hc
        exact .pairUnit hc
      · exact .fail

theorem step_of_next {b : Bool} {q : Quoted.State} {out : Quoted.Outcome}
    (h : Quoted.next b c q = out) : Quoted.Step c b q out :=
  h ▸ step_next b c q

theorem eq_of_next_close {b : Bool} {q : Quoted.State} (h : Quoted.next b c q = .close) :
    q = .plain ∧ c = doubleQuote := by
  cases step_of_next h with
  | close hc => exact ⟨rfl, hc⟩

end

/-! ### Reading what is written -/

section

variable {c : Char} {q q' : Quoted.State} {out : Option Char} {cs ds read rest s : List Char}

theorem readQuotedFrom_goOn (h : Quoted.next true c q = .goOn q' out) :
    readQuotedFrom q read (c :: cs) = readQuotedFrom q' (out.toList ++ read) cs := by
  simp only [readQuotedFrom, h]

theorem readQuotedFrom_digits {value : Nat} {high : Option Nat} (hne : ds ≠ [])
    (h : ∀ d ∈ ds, (hexValue? d).isSome = true)
    (hunit : unitRead (unitFrom value ds) high = .goOn q' out) :
    readQuotedFrom (.unit ds.length false value high) read (ds ++ cs) =
      readQuotedFrom q' (out.toList ++ read) cs := by
  induction ds generalizing value with
  | nil => exact absurd rfl hne
  | cons d ds ih =>
      rw [List.forall_mem_cons] at h
      cases ds with
      | nil => exact readQuotedFrom_goOn ((next_lastDigit h.1).trans hunit)
      | cons e ds =>
          rw [← ih (List.cons_ne_nil _ _) h.2 hunit]
          exact readQuotedFrom_goOn (next_digit h.1)

theorem readQuotedFrom_unit {high : Option Nat} (hds : IsUnit ds)
    (hunit : unitRead (unitValue ds) high = .goOn q' out) :
    readQuotedFrom (.unit 4 false 0 high) read (ds ++ cs) =
      readQuotedFrom q' (out.toList ++ read) cs := by
  rw [← hds.1]
  exact readQuotedFrom_digits hds.ne_nil hds.2 hunit

theorem readQuotedFrom_body {body : List Char} (h : Spells body s) :
    readQuotedFrom .plain read (body ++ doubleQuote :: rest) =
      .ok (String.ofList (read.reverse ++ s), rest) := by
  induction h generalizing read with
  | nil =>
      rw [List.append_nil]
      rfl
  | plain hquote hescape hcontrol h ih =>
      rw [List.cons_append, readQuotedFrom_goOn (next_plain hquote hescape hcontrol), ih]
      simp only [Option.toList_some, List.singleton_append, List.reverse_cons, List.append_assoc]
  | short hc h ih =>
      refine (readQuotedFrom_goOn (next_short hc)).trans (ih.trans ?_)
      simp only [Option.toList_some, List.singleton_append, List.reverse_cons, List.append_assoc]
      rfl
  | @unit ds cs s hds hlow hhigh h ih =>
      have hunit : unitRead (unitValue ds) none =
          .goOn .plain (some (Char.ofNat (unitValue ds))) := by
        simp only [unitRead, hlow, hhigh, Bool.false_eq_true, if_false]
      simp only [List.cons_append, List.append_assoc]
      refine (readQuotedFrom_unit hds hunit).trans (ih.trans ?_)
      simp only [Option.toList_some, List.singleton_append, List.reverse_cons, List.append_assoc]
      rfl
  | @pair ds es cs s hds hes hhigh hlow h ih =>
      have hfirst : unitRead (unitValue ds) none = .goOn (.pairBackslash (unitValue ds)) none := by
        simp only [unitRead, not_isLow_of_isHigh hhigh, hhigh, Bool.false_eq_true, if_false,
          if_true]
      have hsecond : unitRead (unitValue es) (some (unitValue ds)) =
          .goOn .plain (some (paired (unitValue ds) (unitValue es))) := by
        simp only [unitRead, hlow, if_true]
      simp only [List.cons_append, List.append_assoc]
      refine (readQuotedFrom_unit hds hfirst).trans ?_
      refine (readQuotedFrom_unit hes hsecond).trans (ih.trans ?_)
      simp only [Option.toList_some, List.singleton_append, List.reverse_cons, List.append_assoc]
      rfl

end

/-- A text is read from whatever spells it. -/
theorem readQuoted_append {body s rest : List Char} (h : Spells body s) :
    readQuoted (body ++ doubleQuote :: rest) = .ok (String.ofList s, rest) :=
  readQuotedFrom_body h

/-! ### What is left to read -/

/-- What may follow inside of a unit of which some digits were read, given what
    may follow after it. At least one of the digits is left. -/
def UnitLeft (done : Nat → List Char → Prop) (left : Nat) (wrong : Bool) (value : Nat)
    (cs : List Char) : Prop :=
  wrong = false ∧ ∃ ds more, cs = ds ++ more ∧ ds.length = max 1 left ∧
    (∀ d ∈ ds, (hexValue? d).isSome = true) ∧ done (unitFrom value ds) more

section

variable {done : Nat → List Char → Prop} {left value : Nat} {wrong : Bool} {c : Char}
  {cs : List Char}

-- A digit was wrong only if it is not hexadecimal, and then the unit fails.
theorem hex_of_not_wrong (h : (wrong || (hexValue? c).isNone) = false) :
    wrong = false ∧ (hexValue? c).isSome = true ∧ c.utf8Size = 1 := by
  rw [Bool.or_eq_false_iff, Option.isNone_eq_false_iff] at h
  exact ⟨h.1, h.2, utf8Size_of_hex h.2⟩

theorem UnitLeft.digit (hleft : left - c.utf8Size ≠ 0)
    (h : UnitLeft done (left - c.utf8Size) (wrong || (hexValue? c).isNone) (unitFrom value [c])
      cs) :
    UnitLeft done left wrong value (c :: cs) := by
  rcases h with ⟨hwrong, ds, more, rfl, hlen, hhex, hmore⟩
  rcases hex_of_not_wrong hwrong with ⟨hfalse, hc, hsize⟩
  refine ⟨hfalse, c :: ds, more, rfl, ?_, List.forall_mem_cons.mpr ⟨hc, hhex⟩, hmore⟩
  rw [hsize] at hlen hleft
  rw [List.length_cons, hlen]
  omega

theorem UnitLeft.lastDigit (hlast : LastDigit c left wrong) (h : done (unitFrom value [c]) cs) :
    UnitLeft done left wrong value (c :: cs) := by
  rcases hex_of_not_wrong hlast.wrong_eq with ⟨hfalse, hc, hsize⟩
  refine ⟨hfalse, [c], cs, rfl, ?_, List.forall_mem_singleton.mpr hc, h⟩
  have hleft := hlast.left_eq
  rw [hsize] at hleft
  rw [List.length_singleton]
  omega

/-- A whole unit, with nothing read of it. -/
theorem UnitLeft.exists_unit (h : UnitLeft done 4 false 0 cs) :
    ∃ ds more, cs = ds ++ more ∧ IsUnit ds ∧ done (unitValue ds) more := by
  rcases h with ⟨-, ds, more, rfl, hlen, hhex, hmore⟩
  exact ⟨ds, more, rfl, ⟨hlen, hhex⟩, hmore⟩

end

/-- What may follow after the second unit of a pair, and what the pair and it
    add to the text. -/
def SecondDone (high : Nat) (s : List Char) (value : Nat) (cs : List Char) : Prop :=
  isLow value = true ∧ ∃ t, s = paired high value :: t ∧ Spells cs t

/-- What may follow after the backslash between the units of a pair. -/
def SecondLeft (high : Nat) (s cs : List Char) : Prop :=
  ∃ more, cs = 'u' :: more ∧ UnitLeft (SecondDone high s) 4 false 0 more

/-- What may follow after a unit that is no second one. -/
def FirstDone (s : List Char) (value : Nat) (cs : List Char) : Prop :=
  isLow value = false ∧
    if isHigh value then ∃ more, cs = backslash :: more ∧ SecondLeft value s more
    else ∃ t, s = Char.ofNat value :: t ∧ Spells cs t

/-- What may follow inside of a quoted text, and what it adds to the text. -/
def SpellsLeft : Quoted.State → List Char → List Char → Prop
  | .plain, s, cs => Spells cs s
  | .escape, s, cs => Spells (backslash :: cs) s
  | .unit left wrong value none, s, cs => UnitLeft (FirstDone s) left wrong value cs
  | .unit left wrong value (some high), s, cs => UnitLeft (SecondDone high s) left wrong value cs
  | .pairBackslash high, s, cs => ∃ more, cs = backslash :: more ∧ SecondLeft high s more
  | .pairUnit high, s, cs => SecondLeft high s cs

section

variable {c : Char} {q q' : Quoted.State} {out : Option Char} {cs s : List Char}

theorem spells_of_unitLeft (h : UnitLeft (FirstDone s) 4 false 0 cs) :
    Spells (backslash :: 'u' :: cs) s := by
  rcases h.exists_unit with ⟨ds, more, rfl, hds, hlow, hmore⟩
  split at hmore
  · rename_i hhigh
    rcases hmore with ⟨_, rfl, _, rfl, hsecond⟩
    rcases hsecond.exists_unit with ⟨es, more, rfl, hes, hlow', t, rfl, ht⟩
    exact .pair hds hes hhigh hlow' ht
  · rename_i hhigh
    rcases hmore with ⟨t, rfl, ht⟩
    exact .unit hds hlow (Bool.eq_false_iff.mpr hhigh) ht

/-- One step. What may follow after a character may follow from that character
    on. -/
theorem spellsLeft_of_next (hnext : Quoted.next true c q = .goOn q' out) (h : SpellsLeft q' s cs) :
    SpellsLeft q (out.toList ++ s) (c :: cs) := by
  cases step_of_next hnext with
  | escape hc =>
      rw [hc]
      exact h
  | plain hquote hescape hcontrol => exact .plain hquote hescape hcontrol h
  | unit hc =>
      rw [hc]
      exact spells_of_unitLeft h
  | short hd => exact .short hd h
  | @digit _ _ _ _ high hleft => cases high <;> exact UnitLeft.digit hleft h
  | single hlast hlow hhigh =>
      refine UnitLeft.lastDigit hlast ⟨hlow, ?_⟩
      rw [if_neg (Bool.eq_false_iff.mp hhigh)]
      exact ⟨s, rfl, h⟩
  | first hlast hlow hhigh =>
      refine UnitLeft.lastDigit hlast ⟨hlow, ?_⟩
      rw [if_pos hhigh]
      exact h
  | second hlast hlow => exact UnitLeft.lastDigit hlast ⟨hlow, s, rfl, h⟩
  | pairBackslash hc => exact ⟨cs, by rw [hc], h⟩
  | pairUnit hc => exact ⟨cs, by rw [hc], h⟩

/-- A whole run. What is read is what was read before and what the rest adds. -/
theorem exists_of_readQuotedFrom {read rest : List Char} {name : String}
    (h : readQuotedFrom q read cs = .ok (name, rest)) :
    ∃ body s, cs = body ++ doubleQuote :: rest ∧ SpellsLeft q s body ∧
      name = String.ofList (read.reverse ++ s) := by
  induction cs generalizing q read with
  | nil => cases h
  | cons c cs ih =>
      simp only [readQuotedFrom] at h
      split at h
      · rename_i q' out hnext
        rcases ih h with ⟨body, s, rfl, hs, rfl⟩
        refine ⟨c :: body, out.toList ++ s, rfl, spellsLeft_of_next hnext hs, ?_⟩
        cases out <;>
          simp only [Option.toList_some, Option.toList_none, List.nil_append, List.singleton_append,
            List.reverse_cons, List.append_assoc]
      · rename_i hclose
        rcases eq_of_next_close hclose with ⟨rfl, rfl⟩
        cases h
        exact ⟨[], [], rfl, .nil, by rw [List.append_nil]⟩
      · cases h

end

/-- What is read is spelled by what was read. -/
theorem exists_of_readQuoted {cs rest : List Char} {name : String}
    (h : readQuoted cs = .ok (name, rest)) :
    ∃ body, cs = body ++ doubleQuote :: rest ∧ Spells body name.toList := by
  rcases exists_of_readQuotedFrom h with ⟨body, s, rfl, hs, rfl⟩
  refine ⟨body, rfl, ?_⟩
  rw [List.reverse_nil, List.nil_append, String.toList_ofList]
  exact hs

end Json

end OData
