import OData.Proofs.Spelling

/-!
# Passing over Well-Formed Values

A value that does not matter is passed over whatever it holds. The machine that
does it keeps the open brackets on a stack, so what it does on a text depends on
that stack, and every lemma here is stated for all stacks. After a value the
document goes on in the innermost bracket, or is left as it is when there is
none; `resume` says which.

`Passed` is what each symbol of the grammar does to the machine, and it is proved
by induction on the way a text is put together. Two things stand in the way of a
plain induction. A number has no mark at its end, so what follows must not go on
with it. And the machine has states of its own for the first item of a bracket,
where the bracket may also end. They behave like the states for any other item
because no item starts with the end of its bracket.

## Main definitions

* `resume`: How a document goes on after a value.
* `Passed`: What a text that stands for a symbol does to the machine.

## Theorems

* `skipFrom_body`: The inside of a quoted text is passed over.
* `skipFrom_numeral`: A number is passed over.
* `passed_of_derives`: The machine passes over the texts of the grammar.
* `skipValue_append`: A value is passed over, whatever its shape and size.
-/

namespace OData

namespace Json

open Skip Quoted Text

/-- How a document goes on after a value. -/
def resume (stack : List Bracket) (cs : List Char) : Except Fault (List Char) :=
  if stack.isEmpty then .ok cs else skipFrom .after stack cs

/-- The state in which an item of a bracket is expected. -/
def Skip.Bracket.again : Bracket → Skip.State
  | list => .value
  | object => .key

/-- The state in which the first item of a bracket is expected, or its end. -/
def Skip.Bracket.first : Bracket → Skip.State
  | list => .firstValue
  | object => .firstKey

section

variable {s s' : Skip.State} {stack stack' : List Bracket} {c : Char} {cs ds rest : List Char}

theorem skipFrom_goOn (h : Skip.next c stack s = .goOn s' stack') :
    skipFrom s stack (c :: cs) = skipFrom s' stack' cs := by
  simp only [skipFrom, h]

theorem skipFrom_complete (h : Skip.next c stack s = complete stack') :
    skipFrom s stack (c :: cs) = resume stack' cs := by
  cases stack' with
  | nil => simp only [skipFrom, h, complete, resume, List.isEmpty_nil, if_true]
  | cons k stack' =>
      rw [skipFrom_goOn h]
      rfl

/-- Characters that change nothing are passed over. -/
theorem skipFrom_append (h : ∀ c ∈ ds, Skip.next c stack s = .goOn s stack) :
    skipFrom s stack (ds ++ cs) = skipFrom s stack cs := by
  induction ds with
  | nil => rfl
  | cons d ds ih =>
      rw [List.forall_mem_cons] at h
      rw [List.cons_append, skipFrom_goOn h.1, ih h.2]

/-! ### Words and quoted texts -/

theorem skipFrom_word {left : List Char} (h : left ≠ []) :
    skipFrom (.word left) stack (left ++ rest) = resume stack rest := by
  induction left with
  | nil => exact absurd rfl h
  | cons d left ih =>
      by_cases hnil : left = []
      · rw [hnil]
        exact skipFrom_complete (by simp only [Skip.next, if_true, List.isEmpty_nil])
      · rw [← ih hnil]
        refine skipFrom_goOn ?_
        simp only [Skip.next, if_true, List.isEmpty_iff, hnil, if_false]

section

variable {b : Bool} {q q' : Quoted.State} {out : Option Char}

theorem skipFrom_quoted (h : Quoted.next false c q = .goOn q' out) :
    skipFrom (.quoted b q) stack (c :: cs) = skipFrom (.quoted b q') stack cs := by
  refine skipFrom_goOn ?_
  simp only [Skip.next, h]

theorem skipFrom_unitDigits {value : Nat} {high : Option Nat} (hne : ds ≠ [])
    (h : ∀ d ∈ ds, (hexValue? d).isSome = true) :
    skipFrom (.quoted b (.unit ds.length false value high)) stack (ds ++ cs) =
      skipFrom (.quoted b .plain) stack cs := by
  induction ds generalizing value with
  | nil => exact absurd rfl hne
  | cons d ds ih =>
      rw [List.forall_mem_cons] at h
      cases ds with
      | nil => exact skipFrom_quoted (next_lastDigit h.1)
      | cons e ds => exact (skipFrom_quoted (next_digit h.1)).trans (ih (List.cons_ne_nil _ _) h.2)

theorem skipFrom_unit {high : Option Nat} (hds : IsUnit ds) :
    skipFrom (.quoted b (.unit 4 false 0 high)) stack (ds ++ cs) =
      skipFrom (.quoted b .plain) stack cs := by
  rw [← hds.1]
  exact skipFrom_unitDigits hds.ne_nil hds.2

/-- The inside of a quoted text and its closing quote are passed over. -/
theorem skipFrom_body {body : List Char} (h : IsBody body) :
    skipFrom (.quoted b .plain) stack (body ++ doubleQuote :: rest) =
      if b then skipFrom .colon stack rest else resume stack rest := by
  induction h with
  | nil =>
      cases b with
      | true => exact skipFrom_goOn rfl
      | false => exact skipFrom_complete rfl
  | plain hquote hescape hcontrol h ih =>
      exact (skipFrom_quoted (next_plain hquote hescape hcontrol)).trans ih
  | short hc h ih =>
      rcases Option.isSome_iff_exists.mp hc with ⟨d, hd⟩
      have hescape : Quoted.next false backslash .plain = .goOn .escape none := rfl
      exact (skipFrom_quoted hescape).trans ((skipFrom_quoted (next_short hd)).trans ih)
  | unit hds h ih =>
      simp only [List.cons_append, List.append_assoc]
      exact (skipFrom_unit hds).trans ih

end

/-! ### Numbers -/

/-- The states in which a number may end. -/
def numberEnds : List Skip.State :=
  [.leadingZero, .digits, .fraction, .exponent]

@[simp]
theorem mem_numberEnds_iff :
    s ∈ numberEnds ↔ s = .leadingZero ∨ s = .digits ∨ s = .fraction ∨ s = .exponent := by
  simp [numberEnds]

theorem skipFrom_stop (hs : s ∈ numberEnds) (h : Stops rest) :
    skipFrom s stack rest = resume stack rest := by
  cases rest with
  | nil =>
      rw [mem_numberEnds_iff] at hs
      cases stack with
      | nil => rcases hs with rfl | rfl | rfl | rfl <;> rfl
      | cons k stack => rcases hs with rfl | rfl | rfl | rfl <;> rfl
  | cons c cs =>
      rcases h c rfl with ⟨hdigit, hpoint, he, hE⟩
      have hnext : Skip.next c stack s = follow c stack := by
        rw [mem_numberEnds_iff] at hs
        rcases hs with rfl | rfl | rfl | rfl <;>
          simp only [Skip.next, hdigit, hpoint, he, hE, Bool.false_eq_true, or_self, if_false]
      cases stack with
      | nil => simp only [skipFrom, hnext, follow, resume, List.isEmpty_nil, if_true]
      | cons k stack =>
          have hafter : Skip.next c (k :: stack) .after = follow c (k :: stack) := rfl
          simp only [skipFrom, hnext, hafter, resume, List.isEmpty_cons, Bool.false_eq_true,
            if_false]

theorem skipFrom_digits (hs : s ∈ [Skip.State.digits, .fraction, .exponent]) (hds : AllDigits ds) :
    skipFrom s stack (ds ++ cs) = skipFrom s stack cs := by
  refine skipFrom_append fun c hc => ?_
  simp only [List.mem_cons, List.not_mem_nil, or_false] at hs
  rcases hs with rfl | rfl | rfl <;> simp only [Skip.next, hds c hc, if_true]

theorem skipFrom_exponent {e : List Char}
    (hs : s ∈ [Skip.State.leadingZero, .digits, .fraction]) (he : IsExponent e)
    (h : Stops rest) : skipFrom s stack (e ++ rest) = resume stack rest := by
  cases he with
  | none =>
      refine skipFrom_stop ?_ h
      simp only [mem_numberEnds_iff, List.mem_cons, List.not_mem_nil, or_false] at hs ⊢
      rcases hs with rfl | rfl | rfl <;> simp
  | @digits mark c sign ds hmark hsign hc hds =>
      have hmarked : Skip.next mark stack s = .goOn .exponentMark stack := by
        simp only [List.mem_cons, List.not_mem_nil, or_false] at hs
        rcases hmark with rfl | rfl <;> rcases hs with rfl | rfl | rfl <;> rfl
      have hfirst : skipFrom .exponent stack (ds ++ rest) = resume stack rest := by
        rw [skipFrom_digits (by simp) hds, skipFrom_stop (by simp) h]
      simp only [List.cons_append, List.append_assoc]
      rw [skipFrom_goOn hmarked]
      have hplus : ¬ (c = '+' ∨ c = '-') := by
        rintro (rfl | rfl) <;> exact absurd hc (by decide)
      have hunsigned : Skip.next c stack .exponentMark = .goOn .exponent stack := by
        simp only [Skip.next, hplus, if_false, hc, if_true]
      have hsigned : Skip.next c stack .exponentSign = .goOn .exponent stack := by
        simp only [Skip.next, hc, if_true]
      rcases mem_signs_iff.mp hsign with rfl | rfl | rfl
      · exact (skipFrom_goOn hunsigned).trans hfirst
      · exact (skipFrom_goOn rfl).trans ((skipFrom_goOn hsigned).trans hfirst)
      · exact (skipFrom_goOn rfl).trans ((skipFrom_goOn hsigned).trans hfirst)

theorem skipFrom_fraction {f e : List Char} (hs : s ∈ [Skip.State.leadingZero, .digits])
    (hf : IsFraction f) (he : IsExponent e) (h : Stops rest) :
    skipFrom s stack (f ++ (e ++ rest)) = resume stack rest := by
  cases hf with
  | none =>
      refine skipFrom_exponent ?_ he h
      simp only [List.mem_cons, List.not_mem_nil, or_false] at hs ⊢
      rcases hs with rfl | rfl <;> simp
  | @digits c ds hc hds =>
      have hpoint : Skip.next '.' stack s = .goOn .point stack := by
        simp only [List.mem_cons, List.not_mem_nil, or_false] at hs
        rcases hs with rfl | rfl <;> rfl
      have hfirst : Skip.next c stack .point = .goOn .fraction stack := by
        simp only [Skip.next, hc, if_true]
      rw [List.cons_append, skipFrom_goOn hpoint, List.cons_append, skipFrom_goOn hfirst,
        skipFrom_digits (by simp) hds, skipFrom_exponent (by simp) he h]

theorem skipFrom_unsigned
    (hs : ∀ c, c.isDigit = true →
      Skip.next c stack s = .goOn (if c = '0' then .leadingZero else .digits) stack)
    (hcs : IsUnsigned cs) (h : Stops rest) : skipFrom s stack (cs ++ rest) = resume stack rest := by
  obtain ⟨hw, hf, he⟩ := hcs
  simp only [List.append_assoc]
  cases hw with
  | zero =>
      rw [List.singleton_append, skipFrom_goOn (hs '0' rfl)]
      exact skipFrom_fraction (by simp) hf he h
  | @digits c ds hc hzero hds =>
      have hfirst := hs c hc
      rw [if_neg hzero] at hfirst
      rw [List.cons_append, skipFrom_goOn hfirst, skipFrom_digits (by simp) hds]
      exact skipFrom_fraction (by simp) hf he h

theorem start_of_isDigit (h : c.isDigit = true) :
    start c stack = .goOn (if c = '0' then .leadingZero else .digits) stack := by
  have hn : c ≠ 'n' := ne_of_isDigit h rfl
  have ht : c ≠ 't' := ne_of_isDigit h rfl
  have hf : c ≠ 'f' := ne_of_isDigit h rfl
  have hminus : c ≠ '-' := ne_of_isDigit h rfl
  simp only [start, hn, ht, hf, hminus, h, if_false, if_true]
  split <;> rfl

theorem skipFrom_numeral {n : List Char} (hn : IsNumeral n) (h : Stops rest) :
    skipFrom .value stack (n ++ rest) = resume stack rest := by
  cases hn with
  | unsigned hn =>
      refine skipFrom_unsigned (fun c hc => ?_) hn h
      simp only [Skip.next, isBlank_of_isDigit hc, Bool.false_eq_true, if_false,
        start_of_isDigit hc]
  | negative hn =>
      have hminus : Skip.next '-' stack .value = .goOn .firstDigit stack := rfl
      rw [List.cons_append, skipFrom_goOn hminus]
      refine skipFrom_unsigned (fun c hc => ?_) hn h
      simp only [Skip.next, hc, if_true]
      split <;> rfl

/-! ### Values, items and brackets -/

/-- Items start with blanks and a character that does the same in front of the
    first item as in front of any other. -/
theorem exists_head_of_items (stack : List Bracket) {k : Bracket} {is : List Char}
    (h : Derives (.items k) is) :
    ∃ b c t, is = b ++ c :: t ∧ Blanks b ∧
      Skip.next c stack k.first = Skip.next c stack k.again := by
  have hitem {i : List Char} (hi : Derives (.item k) i) :
      ∃ b c t, i = b ++ c :: t ∧ Blanks b ∧
        Skip.next c stack k.first = Skip.next c stack k.again := by
    cases hi with
    | @element b v b' hb hv hb' =>
        rcases IsValue.exists_head hv with ⟨c, t, rfl, hblank, hclosing⟩
        refine ⟨b, c, t ++ b', rfl, hb, ?_⟩
        simp only [Bracket.first, Bracket.again, Skip.next, hblank, hclosing, Bool.false_eq_true,
          if_false]
    | @member b key b' e hb => exact ⟨b, _, _, rfl, hb, rfl⟩
  cases h with
  | last hi => exact hitem hi
  | @more _ i is hi his =>
      rcases hitem hi with ⟨b, c, t, rfl, hb, hnext⟩
      exact ⟨b, c, t ++ ',' :: is, by rw [List.append_assoc]; rfl, hb, hnext⟩

/-- The states in front of which blanks may stand. -/
def spaced : List Skip.State :=
  [.value, .firstValue, .firstKey, .key, .colon]

@[simp]
theorem mem_spaced_iff : s ∈ spaced ↔
    s = .value ∨ s = .firstValue ∨ s = .firstKey ∨ s = .key ∨ s = .colon := by
  simp [spaced]

@[simp]
theorem Skip.Bracket.first_mem (k : Bracket) : k.first ∈ spaced := by
  cases k <;> simp [first]

@[simp]
theorem Skip.Bracket.again_mem (k : Bracket) : k.again ∈ spaced := by
  cases k <;> simp [again]

@[simp]
theorem next_opening (k : Bracket) (stack : List Bracket) :
    Skip.next k.opening stack .value = .goOn k.first (k :: stack) := by
  cases k <;> rfl

theorem skipFrom_blanks {b : List Char} (hb : Blanks b) (hs : s ∈ spaced) :
    skipFrom s stack (b ++ cs) = skipFrom s stack cs := by
  refine skipFrom_append fun c hc => ?_
  rcases mem_spaced_iff.mp hs with rfl | rfl | rfl | rfl | rfl <;>
    simp only [Skip.next, hb c hc, if_true]

theorem skipFrom_after_blanks {b : List Char} (hb : Blanks b) (hstack : stack ≠ []) :
    skipFrom .after stack (b ++ cs) = skipFrom .after stack cs := by
  refine skipFrom_append fun c hc => ?_
  cases stack with
  | nil => exact absurd rfl hstack
  | cons k stack => cases k <;> simp only [Skip.next, follow, hb c hc, if_true]

theorem resume_of_ne_nil (hstack : stack ≠ []) : resume stack cs = skipFrom .after stack cs := by
  simp only [resume, List.isEmpty_iff, hstack, if_false]

theorem skipFrom_first {k : Bracket} {is : List Char} (h : Derives (.items k) is) :
    skipFrom k.first stack (is ++ rest) = skipFrom k.again stack (is ++ rest) := by
  rcases exists_head_of_items stack h with ⟨b, c, t, rfl, hb, hnext⟩
  rw [List.append_assoc, skipFrom_blanks hb k.first_mem, skipFrom_blanks hb k.again_mem,
    List.cons_append, skipFrom, skipFrom, hnext]

/-- What a text that stands for a symbol does to the machine. -/
def Passed : Symbol → List Char → Prop
  | .value, v => ∀ stack rest, Stops rest → skipFrom .value stack (v ++ rest) = resume stack rest
  | .item k, i => ∀ stack rest, stack ≠ [] → Stops rest →
      skipFrom k.again stack (i ++ rest) = skipFrom .after stack rest
  | .items k, is => ∀ stack rest,
      skipFrom k.again (k :: stack) (is ++ k.closing :: rest) = resume stack rest

/-- The machine passes over the texts of the grammar. -/
theorem passed_of_derives {symbol : Symbol} {cs : List Char} (h : Derives symbol cs) :
    Passed symbol cs := by
  induction h with
  | @word w hw =>
      intro stack rest _
      rcases mem_words_iff.mp hw with rfl | rfl | rfl <;>
        exact (skipFrom_goOn rfl).trans (skipFrom_word (List.cons_ne_nil _ _))
  | numeral hn => exact fun stack rest hrest => skipFrom_numeral hn hrest
  | @quoted body hbody =>
      intro stack rest _
      have hquote : Skip.next doubleQuote stack .value = .goOn (.quoted false .plain) stack := rfl
      rw [List.cons_append, List.append_assoc, List.singleton_append, skipFrom_goOn hquote,
        skipFrom_body hbody]
      rfl
  | @empty k b hb =>
      intro stack rest _
      have hfirst : skipFrom k.first (k :: stack) (k.closing :: rest) = resume stack rest := by
        cases k <;> exact skipFrom_complete rfl
      rw [List.cons_append, List.append_assoc, List.singleton_append,
        skipFrom_goOn (next_opening k stack), skipFrom_blanks hb k.first_mem, hfirst]
  | @full k is his ih =>
      intro stack rest _
      rw [List.cons_append, List.append_assoc, List.singleton_append,
        skipFrom_goOn (next_opening k stack), skipFrom_first his, ih stack rest]
  | @element b v b' hb hv hb' ih =>
      intro stack rest hstack hrest
      simp only [List.append_assoc]
      rw [Bracket.again, skipFrom_blanks hb (by simp), ih stack _ (hrest.blanks hb'),
        resume_of_ne_nil hstack, skipFrom_after_blanks hb' hstack]
  | @member b key b' e hb hkey hb' he ih =>
      intro stack rest hstack hrest
      simp only [List.append_assoc, List.cons_append]
      have hquote : Skip.next doubleQuote stack .key = .goOn (.quoted true .plain) stack := rfl
      have hcolon : Skip.next ':' stack .colon = .goOn .value stack := rfl
      rw [Bracket.again, skipFrom_blanks hb (by simp), skipFrom_goOn hquote,
        skipFrom_body hkey, if_pos rfl, skipFrom_blanks hb' (by simp),
        skipFrom_goOn hcolon]
      exact ih stack rest hstack hrest
  | @last k i hi ih =>
      intro stack rest
      rw [ih (k :: stack) _ (List.cons_ne_nil _ _) ?_]
      · cases k <;> exact skipFrom_complete rfl
      · cases k <;> simp [Stops, Bracket.closing]
  | @more k i is hi his ih ihs =>
      intro stack rest
      rw [List.append_assoc, ih (k :: stack) _ (List.cons_ne_nil _ _) (by simp [Stops]),
        List.cons_append, ← ihs stack rest]
      cases k <;> exact skipFrom_goOn rfl

end

/-- A value is passed over, whatever its shape and size. -/
theorem skipValue_append {b v rest : List Char} (hb : Blanks b) (hv : IsValue v)
    (hrest : Stops rest) : skipValue (b ++ (v ++ rest)) = .ok rest := by
  rw [skipValue, skipFrom_blanks hb (by simp)]
  exact passed_of_derives hv [] rest hrest

end Json

end OData
