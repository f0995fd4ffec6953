import OData.Proofs.Skipping

/-!
# What is Left of a Value

The way back. Whatever the machine passes over is a value of the grammar.

A run starts in the middle of nothing, so the statement that goes through an
induction is about what is still to come. In every state the machine waits for
the rest of something: `Needs` says what that is for the value under way,
`Closes` what it takes to close the brackets that are open, and `Completes` puts
the two together. `Finishes` also allows for a bracket that may be closed before
its first item. One step of the machine only ever turns what it waits for into
what it waits for after one more character.

That argument is made once for each kind of state. A state that blanks may stand
in front of goes through `finishes_of_spaced`, one inside of the digits of a
number through `completes_of_digit`, and quoted texts and words have a lemma
each. `finishes_of_next` only says which state is of which kind.

## Main definitions

* `BodyLeft`: What may follow inside of a quoted text.
* `Needs`: What may follow until the value under way is complete.
* `Closes`: What may follow until all brackets are closed.
* `Completes`: What may follow until a value and then all brackets are complete.
* `Finishes`: What may follow until the whole value is complete.

## Theorems

* `bodyLeft_of_next`: One step inside of a quoted text, backwards.
* `completes_of_digit`: One step inside of the digits of a number, backwards.
* `finishes_of_spaced`: One step where blanks may stand, backwards.
* `finishes_of_next`: One step of the machine, backwards.
* `finishes_of_skipFrom`: What a run reads finishes the value.
* `exists_of_skipValue`: What is passed over is a value.
* `eq_of_append_eq`: A text starts with at most one whole value.
-/

namespace OData

namespace Json

open Skip Quoted Text

/-- What may follow after a unit, whatever its value. -/
def BodyDone (_value : Nat) (cs : List Char) : Prop :=
  IsBody cs

/-- What may follow inside of a quoted text, by its form. -/
def BodyLeft : Quoted.State → List Char → Prop
  | .plain, cs => IsBody cs
  | .escape, cs => IsBody (backslash :: cs)
  | .unit left wrong value _, cs => UnitLeft BodyDone left wrong value cs
  | .pairBackslash _, cs => ∃ more, cs = backslash :: 'u' :: more ∧ UnitLeft BodyDone 4 false 0 more
  | .pairUnit _, cs => ∃ more, cs = 'u' :: more ∧ UnitLeft BodyDone 4 false 0 more

/-- What may follow after the key of a member. -/
def AfterKey (cs : List Char) : Prop :=
  ∃ b b' v, Blanks b ∧ Blanks b' ∧ IsValue v ∧ cs = b ++ ':' :: (b' ++ v)

/-- What may follow until the value or the item under way is complete. -/
def Needs : Skip.State → List Char → Prop
  | .value, cs => ∃ b v, Blanks b ∧ IsValue v ∧ cs = b ++ v
  | .firstValue, _ | .firstKey, _ => False
  | .key, cs => ∃ b key more, Blanks b ∧ IsBody key ∧ AfterKey more ∧
      cs = b ++ doubleQuote :: (key ++ doubleQuote :: more)
  | .colon, cs => AfterKey cs
  | .after, cs => cs = []
  | .quoted isKey state, cs => ∃ body more, BodyLeft state body ∧
      (if isKey then AfterKey more else more = []) ∧ cs = body ++ doubleQuote :: more
  | .word left, cs => cs = left
  | .firstDigit, cs => IsUnsigned cs
  | .leadingZero, cs => ∃ f e, IsFraction f ∧ IsExponent e ∧ cs = f ++ e
  | .digits, cs => ∃ ds f e, AllDigits ds ∧ IsFraction f ∧ IsExponent e ∧ cs = ds ++ (f ++ e)
  | .point, cs => ∃ f e, IsFraction ('.' :: f) ∧ IsExponent e ∧ cs = f ++ e
  | .fraction, cs => ∃ ds e, AllDigits ds ∧ IsExponent e ∧ cs = ds ++ e
  | .exponentMark, cs => IsExponent ('e' :: cs)
  | .exponentSign, cs => ∃ c ds, c.isDigit = true ∧ AllDigits ds ∧ cs = c :: ds
  | .exponent, cs => AllDigits cs

/-- What may follow after an item until its bracket is closed. -/
def Tail (k : Bracket) (cs : List Char) : Prop :=
  ∃ b, Blanks b ∧ (cs = b ++ [k.closing] ∨
    ∃ is, Derives (.items k) is ∧ cs = b ++ ',' :: (is ++ [k.closing]))

/-- What may follow until all brackets are closed. -/
def Closes : List Bracket → List Char → Prop
  | [], cs => cs = []
  | k :: stack, cs => ∃ tail more, cs = tail ++ more ∧ Tail k tail ∧ Closes stack more

/-- What may follow until the value or the item under way is complete, and then
    until all brackets are closed. -/
def Completes (stack : List Bracket) (s : Skip.State) (cs : List Char) : Prop :=
  ∃ v more, Needs s v ∧ Closes stack more ∧ cs = v ++ more

/-- What may follow until the first item of a bracket is complete, or the bracket
    is closed without one, and then until all brackets are closed. -/
def Opens (k : Bracket) (stack : List Bracket) (cs : List Char) : Prop :=
  (∃ b more, Blanks b ∧ Closes stack.tail more ∧ cs = b ++ k.closing :: more) ∨
    Completes stack k.again cs

/-- What may follow until the whole value is complete. -/
def Finishes (stack : List Bracket) : Skip.State → List Char → Prop
  | .firstValue, cs => Opens .list stack cs
  | .firstKey, cs => Opens .object stack cs
  | s, cs => Completes stack s cs

/-- The same after a character, given what the character does. -/
def FinishesAfter (c : Char) : Skip.Outcome → List Char → Prop
  | .goOn s stack, cs => ∃ more, cs = c :: more ∧ Finishes stack s more
  | .ends, cs => cs = [c]
  | .ended, cs => cs = []
  | .fail, _ => False

section

variable {s s' : Skip.State} {k : Bracket} {stack : List Bracket} {c : Char} {v cs rest : List Char}

@[simp]
theorem finishes_again : Finishes stack k.again cs ↔ Completes stack k.again cs := by
  cases k <;> exact Iff.rfl

theorem closes_of_complete (h : FinishesAfter c (complete stack) cs) :
    ∃ more, cs = c :: more ∧ Closes stack more := by
  cases stack with
  | nil => exact ⟨[], h, rfl⟩
  | cons k stack =>
      rcases h with ⟨more, rfl, v, more', rfl, hmore, heq⟩
      exact ⟨more, rfl, heq ▸ hmore⟩

/-! ### Brackets -/

-- The blanks that follow an item belong to it.
theorem item_of_needs {i b : List Char} (hi : Needs k.again i) (hb : Blanks b) :
    Derives (.item k) (i ++ b) := by
  cases k with
  | list =>
      rcases hi with ⟨b', v, hb', hv, rfl⟩
      rw [List.append_assoc]
      exact .element hb' hv hb
  | object =>
      rcases hi with ⟨b', key, more, hb', hkey, ⟨b1, b2, v, hb1, hb2, hv, rfl⟩, rfl⟩
      have hmember := Derives.member hb' hkey hb1 (.element hb2 hv hb)
      simpa only [List.append_assoc, List.cons_append] using hmember

/-- An item and what closes its bracket are the rest of the bracket. -/
theorem items_of_completes (h : Completes (k :: stack) k.again cs) :
    ∃ is more, cs = is ++ k.closing :: more ∧ Derives (.items k) is ∧ Closes stack more := by
  rcases h with ⟨i, _, hi, ⟨tail, more, rfl, ⟨b, hb, htail⟩, hmore⟩, rfl⟩
  rcases htail with rfl | ⟨is, his, rfl⟩
  · refine ⟨i ++ b, more, ?_, .last (item_of_needs hi hb), hmore⟩
    simp only [List.append_assoc, List.singleton_append]
  · refine ⟨(i ++ b) ++ ',' :: is, more, ?_, .more (item_of_needs hi hb) his, hmore⟩
    simp only [List.append_assoc, List.cons_append, List.nil_append]

theorem closes_blank (hc : isBlank c = true) (h : Closes (k :: stack) cs) :
    Closes (k :: stack) (c :: cs) := by
  rcases h with ⟨tail, more, rfl, ⟨b, hb, htail⟩, hmore⟩
  refine ⟨c :: tail, more, rfl, ⟨c :: b, List.forall_mem_cons.mpr ⟨hc, hb⟩, ?_⟩, hmore⟩
  rcases htail with rfl | ⟨is, his, rfl⟩
  · exact .inl rfl
  · exact .inr ⟨is, his, rfl⟩

theorem closes_of_follow (h : FinishesAfter c (follow c stack) cs) : Closes stack cs := by
  cases stack with
  | nil => exact h
  | cons k stack =>
      -- What comes after an item is the same in both kinds of bracket.
      have hfollow : follow c (k :: stack) =
          if isBlank c then .goOn .after (k :: stack)
          else if c = ',' then .goOn k.again (k :: stack)
          else if c = k.closing then complete stack
          else .fail := by
        cases k <;> rfl
      rw [hfollow] at h
      split at h
      · rename_i hblank
        rcases h with ⟨more, rfl, v, more', rfl, hmore, heq⟩
        exact closes_blank hblank (heq ▸ hmore)
      split at h
      · rename_i hcomma
        rcases h with ⟨rest, rfl, hrest⟩
        rcases items_of_completes (finishes_again.mp hrest) with ⟨is, more, rfl, his, hmore⟩
        have htail : Tail k (',' :: (is ++ [k.closing])) := ⟨[], Blanks.nil, .inr ⟨is, his, rfl⟩⟩
        refine ⟨',' :: (is ++ [k.closing]), more, ?_, htail, hmore⟩
        rw [hcomma, List.cons_append, List.append_assoc, List.singleton_append]
      split at h
      · rename_i hclosing
        rcases closes_of_complete h with ⟨more, rfl, hmore⟩
        exact ⟨[k.closing], more, by rw [hclosing]; rfl, ⟨[], Blanks.nil, .inl rfl⟩, hmore⟩
      · exact h.elim

/-- What stands between brackets, and the bracket in front of it, is a value. -/
theorem completes_of_opens (h : Opens k (k :: stack) cs) :
    Completes stack .value (k.opening :: cs) := by
  rcases h with ⟨b, more, hb, hmore, rfl⟩ | hitems
  · have hv : IsValue (k.opening :: (b ++ [k.closing])) := .empty k hb
    refine ⟨_, more, ⟨[], _, Blanks.nil, hv, rfl⟩, hmore, ?_⟩
    simp only [List.cons_append, List.append_assoc, List.nil_append]
  · rcases items_of_completes hitems with ⟨is, more, rfl, his, hmore⟩
    have hv : IsValue (k.opening :: (is ++ [k.closing])) := .full k his
    refine ⟨_, more, ⟨[], _, Blanks.nil, hv, rfl⟩, hmore, ?_⟩
    simp only [List.cons_append, List.append_assoc, List.nil_append]

/-! ### Steps inside of a value -/

/-- The machine goes on with the same value. -/
theorem completes_of_goOn (h : ∃ rest, cs = c :: rest ∧ Completes stack s' rest)
    (hs : ∀ v, Needs s' v → Needs s (c :: v)) : Completes stack s cs := by
  rcases h with ⟨_, rfl, v, more, hv, hmore, rfl⟩
  exact ⟨c :: v, more, hs v hv, hmore, rfl⟩

/-- The value is complete with this character. -/
theorem completes_of_complete (h : FinishesAfter c (complete stack) cs) (hs : Needs s [c]) :
    Completes stack s cs := by
  rcases closes_of_complete h with ⟨more, rfl, hmore⟩
  exact ⟨[c], more, hs, hmore, rfl⟩

/-- The value was complete before this character. -/
theorem completes_of_follow (h : FinishesAfter c (follow c stack) cs) (hs : Needs s []) :
    Completes stack s cs :=
  ⟨[], cs, hs, closes_of_follow h, rfl⟩

theorem needs_value (h : IsValue v) : Needs .value v :=
  ⟨[], v, Blanks.nil, h, rfl⟩

/-! ### Quoted texts and words -/

/-- A character that goes on inside of a quoted text belongs to it. -/
theorem bodyLeft_of_next {q q' : Quoted.State} {out : Option Char} {body : List Char}
    (hnext : Quoted.next false c q = .goOn q' out) (h : BodyLeft q' body) :
    BodyLeft q (c :: body) := by
  cases step_of_next hnext with
  | escape hc =>
      rw [hc]
      exact h
  | plain hquote hescape hcontrol => exact .plain hquote hescape hcontrol h
  | unit hc =>
      rcases UnitLeft.exists_unit h with ⟨ds, more, rfl, hds, hmore⟩
      rw [hc]
      exact .unit hds hmore
  | short hd => exact .short (Option.isSome_iff_exists.mpr ⟨_, hd⟩) h
  | digit hleft => exact UnitLeft.digit hleft h
  | passed hlast => exact UnitLeft.lastDigit hlast h
  | pairBackslash hc =>
      rcases h with ⟨more, rfl, hmore⟩
      exact ⟨more, by rw [hc], hmore⟩
  | pairUnit hc => exact ⟨body, by rw [hc], h⟩

theorem completes_quoted {isKey : Bool} {q : Quoted.State}
    (h : FinishesAfter c (Skip.next c stack (.quoted isKey q)) cs) :
    Completes stack (.quoted isKey q) cs := by
  simp only [Skip.next] at h
  split at h
  · rename_i q' out hnext
    refine completes_of_goOn h fun v hv => ?_
    rcases hv with ⟨body, after, hbody, hafter, rfl⟩
    exact ⟨c :: body, after, bodyLeft_of_next hnext hbody, hafter, rfl⟩
  · rename_i hclose
    rcases eq_of_next_close hclose with ⟨rfl, rfl⟩
    cases isKey with
    | true => exact completes_of_goOn h fun v hv => ⟨[], v, .nil, hv, rfl⟩
    | false => exact completes_of_complete h ⟨[], [], .nil, rfl, rfl⟩
  · exact h.elim

theorem completes_word {left : List Char}
    (h : FinishesAfter c (Skip.next c stack (.word left)) cs) :
    Completes stack (.word left) cs := by
  cases left with
  | nil => exact completes_of_follow h rfl
  | cons d left =>
      simp only [Skip.next] at h
      split at h
      · rename_i hc
        split at h
        · rename_i hnil
          exact completes_of_complete h (by rw [List.isEmpty_iff.mp hnil, hc]; rfl)
        · refine completes_of_goOn h fun v hv => ?_
          rw [hc, hv]
          rfl
      · exact h.elim

/-! ### Numbers -/

/-- A digit where the machine goes on with digits of one part of a number. -/
theorem completes_of_digit {out : Skip.Outcome}
    (hs' : s' ∈ [Skip.State.digits, .fraction, .exponent])
    (h : FinishesAfter c (if c.isDigit then .goOn s' stack else out) cs)
    (hdigit : c.isDigit = true → ∀ v, Needs s' v → Needs s (c :: v))
    (hout : FinishesAfter c out cs → Completes stack s cs) : Completes stack s cs := by
  split at h
  · rename_i hc
    refine completes_of_goOn ?_ (hdigit hc)
    simp only [List.mem_cons, List.not_mem_nil, or_false] at hs'
    rcases hs' with rfl | rfl | rfl <;> exact h
  · exact hout h

theorem isUnsigned_of_zero (h : Needs .leadingZero v) : IsUnsigned ('0' :: v) := by
  rcases h with ⟨f, e, hf, he, rfl⟩
  exact .parts .zero hf he

theorem isUnsigned_of_digit (hc : c.isDigit = true) (hzero : c ≠ '0') (h : Needs .digits v) :
    IsUnsigned (c :: v) := by
  rcases h with ⟨ds, f, e, hds, hf, he, rfl⟩
  exact .parts (.digits hc hzero hds) hf he

theorem needs_digits (hc : c.isDigit = true) (h : Needs .digits v) : Needs .digits (c :: v) := by
  rcases h with ⟨ds, f, e, hds, hf, he, rfl⟩
  exact ⟨c :: ds, f, e, List.forall_mem_cons.mpr ⟨hc, hds⟩, hf, he, rfl⟩

theorem needs_point (hc : c.isDigit = true) (h : Needs .fraction v) : Needs .point (c :: v) := by
  rcases h with ⟨ds, e, hds, he, rfl⟩
  exact ⟨c :: ds, e, .digits hc hds, he, rfl⟩

theorem needs_fraction (hc : c.isDigit = true) (h : Needs .fraction v) :
    Needs .fraction (c :: v) := by
  rcases h with ⟨ds, e, hds, he, rfl⟩
  exact ⟨c :: ds, e, List.forall_mem_cons.mpr ⟨hc, hds⟩, he, rfl⟩

theorem needs_signed (hc : c = '+' ∨ c = '-') (h : Needs .exponentSign v) :
    Needs .exponentMark (c :: v) := by
  rcases h with ⟨d, ds, hd, hds, rfl⟩
  have hsign : [c] ∈ signs := by rcases hc with rfl | rfl <;> simp
  exact .digits (.inl rfl) hsign hd hds

theorem needs_unsigned (hc : c.isDigit = true) (h : AllDigits v) :
    Needs .exponentMark (c :: v) := by
  have hsign : [] ∈ signs := by simp
  exact .digits (.inl rfl) hsign hc h

/-- What stands behind the digits of a fraction. -/
theorem exponent_of_next (h : FinishesAfter c
      (if c = 'e' ∨ c = 'E' then .goOn .exponentMark stack else follow c stack) cs) :
    ∃ e more, IsExponent e ∧ Closes stack more ∧ cs = e ++ more := by
  split at h
  · rename_i hmark
    rcases h with ⟨_, rfl, v, more, hv, hmore, rfl⟩
    refine ⟨c :: v, more, ?_, hmore, rfl⟩
    cases hv with
    | digits _ hsign hd hds => exact .digits hmark hsign hd hds
  · exact ⟨[], cs, .none, closes_of_follow h, rfl⟩

/-- What stands behind the digits of a whole part. -/
theorem fraction_of_next (h : FinishesAfter c
      (if c = '.' then .goOn .point stack
      else if c = 'e' ∨ c = 'E' then .goOn .exponentMark stack else follow c stack) cs) :
    Completes stack .leadingZero cs := by
  split at h
  · rename_i hc
    refine completes_of_goOn h fun v hv => ?_
    rcases hv with ⟨f, e, hf, he, rfl⟩
    exact ⟨'.' :: f, e, hf, he, by rw [hc]; rfl⟩
  · rcases exponent_of_next h with ⟨e, more, he, hmore, rfl⟩
    exact ⟨e, more, ⟨[], e, .none, he, rfl⟩, hmore, rfl⟩

theorem completes_firstDigit (h : FinishesAfter c (Skip.next c stack .firstDigit) cs) :
    Completes stack .firstDigit cs := by
  simp only [Skip.next] at h
  split at h
  · rename_i hc
    rw [hc] at h
    exact completes_of_goOn h fun v => isUnsigned_of_zero
  · rename_i hzero
    exact completes_of_digit (by simp) h (fun hc v => isUnsigned_of_digit hc hzero) False.elim

theorem completes_digits (h : FinishesAfter c (Skip.next c stack .digits) cs) :
    Completes stack .digits cs := by
  refine completes_of_digit (by simp) h (fun hc v => needs_digits hc) fun h => ?_
  rcases fraction_of_next h with ⟨_, more, ⟨f, e, hf, he, rfl⟩, hmore, rfl⟩
  exact ⟨f ++ e, more, ⟨[], f, e, AllDigits.nil, hf, he, rfl⟩, hmore, rfl⟩

theorem completes_fraction (h : FinishesAfter c (Skip.next c stack .fraction) cs) :
    Completes stack .fraction cs := by
  refine completes_of_digit (by simp) h (fun hc v => needs_fraction hc) fun h => ?_
  rcases exponent_of_next h with ⟨e, more, he, hmore, rfl⟩
  exact ⟨e, more, ⟨[], e, AllDigits.nil, he, rfl⟩, hmore, rfl⟩

theorem completes_exponentMark (h : FinishesAfter c (Skip.next c stack .exponentMark) cs) :
    Completes stack .exponentMark cs := by
  simp only [Skip.next] at h
  split at h
  · rename_i hc
    exact completes_of_goOn h fun v => needs_signed hc
  · exact completes_of_digit (by simp) h (fun hc v => needs_unsigned hc) False.elim

/-! ### What may stand behind blanks -/

/-- The first character of a value and what it asks for are a value. -/
theorem completes_value (h : FinishesAfter c (start c stack) cs) : Completes stack .value cs := by
  have hword {w : List Char} (hw : c :: w ∈ words)
      (h : FinishesAfter c (.goOn (.word w) stack) cs) : Completes stack .value cs := by
    refine completes_of_goOn h fun v hv => ?_
    rw [hv]
    exact needs_value (.word hw)
  unfold start at h
  split at h
  · rename_i hc
    exact hword (by simp [hc]) h
  split at h
  · rename_i hc
    exact hword (by simp [hc]) h
  split at h
  · rename_i hc
    exact hword (by simp [hc]) h
  split at h
  · rename_i hc
    rw [hc] at h
    exact completes_of_goOn h fun v hv => needs_value (.numeral (.negative hv))
  split at h
  · rename_i hc
    rw [hc] at h
    exact completes_of_goOn h fun v hv =>
      needs_value (.numeral (.unsigned (isUnsigned_of_zero hv)))
  split at h
  · rename_i hzero hc
    exact completes_of_goOn h fun v hv =>
      needs_value (.numeral (.unsigned (isUnsigned_of_digit hc hzero hv)))
  split at h
  · rename_i hc
    rw [hc] at h
    refine completes_of_goOn h fun v hv => ?_
    rcases hv with ⟨body, _, hbody, rfl, rfl⟩
    exact needs_value (.quoted hbody)
  split at h
  · rename_i hc
    rcases h with ⟨more, rfl, hmore⟩
    rw [hc]
    exact completes_of_opens (k := .list) hmore
  split at h
  · rename_i hc
    rcases h with ⟨more, rfl, hmore⟩
    rw [hc]
    exact completes_of_opens (k := .object) hmore
  · exact h.elim

theorem completes_key (h : FinishesAfter c
      (if c = doubleQuote then .goOn (.quoted true .plain) stack else .fail) cs) :
    Completes stack .key cs := by
  split at h
  · rename_i hc
    refine completes_of_goOn h fun v hv => ?_
    rcases hv with ⟨key, after, hkey, hafter, rfl⟩
    exact ⟨[], key, after, Blanks.nil, hkey, hafter, by rw [hc]; rfl⟩
  · exact h.elim

theorem completes_colon (h : FinishesAfter c
      (if c = ':' then .goOn .value stack else .fail) cs) : Completes stack .colon cs := by
  split at h
  · rename_i hc
    refine completes_of_goOn h fun v hv => ?_
    rcases hv with ⟨b, v, hb, hv, rfl⟩
    exact ⟨[], b, v, Blanks.nil, hb, hv, by rw [hc]; rfl⟩
  · exact h.elim

/-- Where a bracket was opened it is closed, or an item starts. -/
theorem opens_of_next {out : Skip.Outcome}
    (h : FinishesAfter c (if c = k.closing then complete stack.tail else out) cs)
    (hout : FinishesAfter c out cs → Completes stack k.again cs) : Opens k stack cs := by
  split at h
  · rename_i hclosing
    rcases closes_of_complete h with ⟨more, rfl, hmore⟩
    exact .inl ⟨[], more, Blanks.nil, hmore, by rw [hclosing]; rfl⟩
  · exact .inr (hout h)

-- Blanks in front of what is needed change nothing.
theorem completes_blank (hs : s ∈ [Skip.State.value, .key, .colon]) (hc : isBlank c = true)
    (h : Completes stack s cs) : Completes stack s (c :: cs) := by
  refine completes_of_goOn ⟨cs, rfl, h⟩ fun v hv => ?_
  have hblank {b : List Char} (hb : Blanks b) : Blanks (c :: b) :=
    List.forall_mem_cons.mpr ⟨hc, hb⟩
  simp only [List.mem_cons, List.not_mem_nil, or_false] at hs
  rcases hs with rfl | rfl | rfl
  · rcases hv with ⟨b, v, hb, hv, rfl⟩
    exact ⟨c :: b, v, hblank hb, hv, rfl⟩
  · rcases hv with ⟨b, key, after, hb, hkey, hafter, rfl⟩
    exact ⟨c :: b, key, after, hblank hb, hkey, hafter, rfl⟩
  · rcases hv with ⟨b, b', v, hb, hb', hv, rfl⟩
    exact ⟨c :: b, b', v, hblank hb, hb', hv, rfl⟩

theorem opens_blank (hc : isBlank c = true) (h : Opens k stack cs) : Opens k stack (c :: cs) := by
  rcases h with ⟨b, more, hb, hmore, rfl⟩ | hitem
  · exact .inl ⟨c :: b, more, List.forall_mem_cons.mpr ⟨hc, hb⟩, hmore, rfl⟩
  · exact .inr (completes_blank (by cases k <;> simp [Bracket.again]) hc hitem)

/-- In front of what these states wait for, blanks may stand. -/
theorem finishes_of_spaced {out : Skip.Outcome} (hs : s ∈ spaced)
    (h : FinishesAfter c (if isBlank c then .goOn s stack else out) cs)
    (hout : FinishesAfter c out cs → Finishes stack s cs) : Finishes stack s cs := by
  split at h
  · rename_i hc
    rcases h with ⟨rest, rfl, hrest⟩
    rcases mem_spaced_iff.mp hs with rfl | rfl | rfl | rfl | rfl
    · exact completes_blank (by simp) hc hrest
    · exact opens_blank hc hrest
    · exact opens_blank hc hrest
    · exact completes_blank (by simp) hc hrest
    · exact completes_blank (by simp) hc hrest
  · exact hout h

/-! ### A step -/

/-- One step. What finishes the value after a character finishes it from that
    character on. -/
theorem finishes_of_next (h : FinishesAfter c (Skip.next c stack s) cs) : Finishes stack s cs := by
  cases s with
  | value => exact finishes_of_spaced (by simp) h completes_value
  | firstValue =>
      refine finishes_of_spaced (by simp) h fun h => ?_
      exact opens_of_next (k := .list) h completes_value
  | firstKey =>
      refine finishes_of_spaced (by simp) h fun h => ?_
      exact opens_of_next (k := .object) h completes_key
  | key => exact finishes_of_spaced (by simp) h completes_key
  | colon => exact finishes_of_spaced (by simp) h completes_colon
  | after => exact completes_of_follow h rfl
  | quoted isKey q => exact completes_quoted h
  | word left => exact completes_word h
  | firstDigit => exact completes_firstDigit h
  | leadingZero =>
      simp only [Skip.next] at h
      split at h
      · exact h.elim
      · exact fraction_of_next h
  | digits => exact completes_digits h
  | point => exact completes_of_digit (by simp) h (fun hc v => needs_point hc) False.elim
  | fraction => exact completes_fraction h
  | exponentMark => exact completes_exponentMark h
  | exponentSign =>
      exact completes_of_digit (by simp) h (fun hc v hv => ⟨c, v, hc, hv, rfl⟩) False.elim
  | exponent =>
      refine completes_of_digit (by simp) h (fun hc v hv => ?_) fun h => ?_
      · exact List.forall_mem_cons.mpr ⟨hc, hv⟩
      · exact completes_of_follow h AllDigits.nil

-- Outside of all brackets a number may stand at the very end.
theorem finishes_nil (hv : Needs s [])
    (h : (if stack.isEmpty then none else some Fault.truncated) = none) :
    Completes stack s [] := by
  cases stack with
  | nil => exact ⟨[], [], hv, rfl, rfl⟩
  | cons k stack => cases h

/-- Where the document may end, nothing more is needed. -/
theorem finishes_of_end (h : endFault? stack s = none) : Finishes stack s [] := by
  cases s with
  | leadingZero => exact finishes_nil ⟨[], [], .none, .none, rfl⟩ h
  | digits => exact finishes_nil ⟨[], [], [], AllDigits.nil, .none, .none, rfl⟩ h
  | fraction => exact finishes_nil ⟨[], [], AllDigits.nil, .none, rfl⟩ h
  | exponent => exact finishes_nil AllDigits.nil h
  | _ => cases h

/-- A whole run. What the machine reads finishes the value. -/
theorem finishes_of_skipFrom (h : skipFrom s stack cs = .ok rest) :
    ∃ read, cs = read ++ rest ∧ Finishes stack s read := by
  induction cs generalizing s stack with
  | nil =>
      simp only [skipFrom] at h
      split at h
      · rename_i hend
        rw [← Except.ok.inj h]
        exact ⟨[], rfl, finishes_of_end hend⟩
      · cases h
  | cons c cs ih =>
      have hnext {read : List Char} (hread : FinishesAfter c (Skip.next c stack s) read) :
          Finishes stack s read :=
        finishes_of_next hread
      simp only [skipFrom] at h
      split at h
      · rename_i s' stack' hgo
        rcases ih h with ⟨read, rfl, hread⟩
        exact ⟨c :: read, rfl, hnext (by rw [hgo]; exact ⟨read, rfl, hread⟩)⟩
      · rename_i hends
        rw [← Except.ok.inj h]
        exact ⟨[c], rfl, hnext (by rw [hends]; rfl)⟩
      · rename_i hended
        rw [← Except.ok.inj h]
        exact ⟨[], rfl, hnext (by rw [hended]; rfl)⟩
      · cases h

end

/-- What is passed over is a value, with blanks in front of it. -/
theorem exists_of_skipValue {cs rest : List Char} (h : skipValue cs = .ok rest) :
    ∃ b v, Blanks b ∧ IsValue v ∧ cs = b ++ (v ++ rest) := by
  rcases finishes_of_skipFrom h with ⟨_, rfl, _, _, ⟨b, v, hb, hv, rfl⟩, rfl, rfl⟩
  refine ⟨b, v, hb, hv, ?_⟩
  simp only [List.append_nil, List.append_assoc]

/-- A text starts with at most one whole value. -/
theorem eq_of_append_eq {v v' rest rest' : List Char} (hv : IsValue v) (hv' : IsValue v')
    (hrest : Stops rest) (hrest' : Stops rest') (h : v ++ rest = v' ++ rest') :
    v = v' ∧ rest = rest' := by
  have hskip : skipValue (v ++ rest) = .ok rest := skipValue_append Blanks.nil hv hrest
  have hskip' : skipValue (v' ++ rest') = .ok rest' := skipValue_append Blanks.nil hv' hrest'
  have heq : rest = rest' := Except.ok.inj (hskip.symm.trans (h ▸ hskip'))
  subst heq
  exact ⟨List.append_cancel_right h, rfl⟩

end Json

end OData
