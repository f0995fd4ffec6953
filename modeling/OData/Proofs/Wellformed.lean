import OData.Json.Skip

/-!
# Well-Formed JSON

The grammar of JSON values, as the standard gives it and without any reader in
mind. A text stands for a symbol of the grammar when it can be put together
from texts that stand for the parts.

Lists and objects are built in the same way. Both are brackets around items
with commas between them, and an item is a value with blanks around it, with a
key and a colon in front of it in an object. So the grammar has a symbol for an
item and one for several items, each for the two kinds of bracket.

A quoted text is described by its form alone here. What the escapes in it stand
for is another matter, and an escape that stands for nothing is well formed.

## Main definitions

* `Blanks`, `AllDigits`: Texts of one class of characters.
* `IsWhole`, `IsFraction`, `IsExponent`, `IsNumeral`: Numbers and their parts.
* `IsBody`: The inside of a quoted text.
* `Derives`: The texts that stand for a symbol.
* `IsValue`: The texts that stand for a value.
* `Stops`: What follows does not go on with a number.

## Theorems

* `Stops.blanks`: Blanks do not go on with a number.
* `IsValue.exists_head`: How a value starts.
* `skipBlanks_value`: No blank is left in front of a value.
-/

namespace OData

namespace Json

open Skip Quoted Text

/-- Nothing but blanks. -/
def Blanks (cs : List Char) : Prop :=
  ∀ c ∈ cs, isBlank c = true

/-- Nothing but digits. -/
def AllDigits (cs : List Char) : Prop :=
  ∀ c ∈ cs, c.isDigit = true

/-- The digits in front of the point. A zero in front of others is none. -/
inductive IsWhole : List Char → Prop where
  | zero : IsWhole ['0']
  | digits {c : Char} {ds : List Char} (hc : c.isDigit = true) (hzero : c ≠ '0')
      (hds : AllDigits ds) : IsWhole (c :: ds)

/-- The point and what stands behind it, or nothing. -/
inductive IsFraction : List Char → Prop where
  | none : IsFraction []
  | digits {c : Char} {ds : List Char} (hc : c.isDigit = true) (hds : AllDigits ds) :
      IsFraction ('.' :: c :: ds)

/-- The sign of an exponent, or nothing. -/
def signs : List (List Char) :=
  [[], ['+'], ['-']]

@[simp]
theorem mem_signs_iff {cs : List Char} : cs ∈ signs ↔ cs = [] ∨ cs = ['+'] ∨ cs = ['-'] := by
  simp [signs]

/-- An exponent, or nothing. -/
inductive IsExponent : List Char → Prop where
  | none : IsExponent []
  | digits {mark c : Char} {sign ds : List Char} (hmark : mark = 'e' ∨ mark = 'E')
      (hsign : sign ∈ signs) (hc : c.isDigit = true) (hds : AllDigits ds) :
      IsExponent (mark :: (sign ++ c :: ds))

/-- A number that is not negative. -/
inductive IsUnsigned : List Char → Prop where
  | parts {w f e : List Char} (hw : IsWhole w) (hf : IsFraction f) (he : IsExponent e) :
      IsUnsigned (w ++ (f ++ e))

/-- A number. -/
inductive IsNumeral : List Char → Prop where
  | unsigned {cs : List Char} (h : IsUnsigned cs) : IsNumeral cs
  | negative {cs : List Char} (h : IsUnsigned cs) : IsNumeral ('-' :: cs)

/-- A unit of sixteen bits: four hexadecimal digits. -/
def IsUnit (ds : List Char) : Prop :=
  ds.length = 4 ∧ ∀ d ∈ ds, (hexValue? d).isSome = true

/-- What stands between the quotes of a quoted text. -/
inductive IsBody : List Char → Prop where
  | nil : IsBody []
  | plain {c : Char} {cs : List Char} (hquote : c ≠ doubleQuote) (hescape : c ≠ backslash)
      (hcontrol : 0x20 ≤ c.toNat) (h : IsBody cs) : IsBody (c :: cs)
  | short {c : Char} {cs : List Char} (hc : (shortEscape? c).isSome = true) (h : IsBody cs) :
      IsBody (backslash :: c :: cs)
  | unit {ds cs : List Char} (hds : IsUnit ds) (h : IsBody cs) :
      IsBody (backslash :: 'u' :: (ds ++ cs))

/-- The words that are values. -/
def words : List (List Char) :=
  [['n', 'u', 'l', 'l'], ['t', 'r', 'u', 'e'], ['f', 'a', 'l', 's', 'e']]

@[simp]
theorem mem_words_iff {cs : List Char} :
    cs ∈ words ↔ cs = ['n', 'u', 'l', 'l'] ∨ cs = ['t', 'r', 'u', 'e'] ∨
      cs = ['f', 'a', 'l', 's', 'e'] := by
  simp [words]

/-- The character that opens a bracket. -/
def Skip.Bracket.opening : Bracket → Char
  | list => '['
  | object => '\x7b'

/-- The character that closes a bracket. -/
def Skip.Bracket.closing : Bracket → Char
  | list => ']'
  | object => '\x7d'

/-- A symbol of the grammar. -/
inductive Symbol where
  /-- A value. -/
  | value
  /-- What stands between commas. -/
  | item (k : Bracket)
  /-- One or more items with commas between them. -/
  | items (k : Bracket)

/-- The texts that stand for a symbol. -/
inductive Derives : Symbol → List Char → Prop where
  | word {w : List Char} (h : w ∈ words) : Derives .value w
  | numeral {n : List Char} (h : IsNumeral n) : Derives .value n
  | quoted {body : List Char} (h : IsBody body) :
      Derives .value (doubleQuote :: (body ++ [doubleQuote]))
  | empty (k : Bracket) {b : List Char} (h : Blanks b) :
      Derives .value (k.opening :: (b ++ [k.closing]))
  | full (k : Bracket) {is : List Char} (h : Derives (.items k) is) :
      Derives .value (k.opening :: (is ++ [k.closing]))
  | element {b v b' : List Char} (hb : Blanks b) (hv : Derives .value v) (hb' : Blanks b') :
      Derives (.item .list) (b ++ (v ++ b'))
  | member {b key b' e : List Char} (hb : Blanks b) (hkey : IsBody key) (hb' : Blanks b')
      (he : Derives (.item .list) e) :
      Derives (.item .object)
        (b ++ doubleQuote :: (key ++ doubleQuote :: (b' ++ ':' :: e)))
  | last {k : Bracket} {i : List Char} (hi : Derives (.item k) i) : Derives (.items k) i
  | more {k : Bracket} {i is : List Char} (hi : Derives (.item k) i)
      (his : Derives (.items k) is) : Derives (.items k) (i ++ ',' :: is)

/-- A well-formed value, without blanks around it. -/
abbrev IsValue (v : List Char) : Prop :=
  Derives .value v

/-- A text does not start with a character that goes on with a number. -/
def Stops (cs : List Char) : Prop :=
  ∀ c ∈ cs.head?, c.isDigit = false ∧ c ≠ '.' ∧ c ≠ 'e' ∧ c ≠ 'E'

theorem Blanks.nil : Blanks [] :=
  List.forall_mem_nil _

theorem AllDigits.nil : AllDigits [] :=
  List.forall_mem_nil _

theorem ne_of_isDigit {c d : Char} (hc : c.isDigit = true) (hd : d.isDigit = false) : c ≠ d := by
  rintro rfl
  cases hc.symm.trans hd

theorem isBlank_of_isDigit {c : Char} (h : c.isDigit = true) : isBlank c = false := by
  simp only [isBlank, Bool.or_eq_false_iff, beq_eq_false_iff_ne]
  exact ⟨⟨⟨ne_of_isDigit h rfl, ne_of_isDigit h rfl⟩, ne_of_isDigit h rfl⟩, ne_of_isDigit h rfl⟩

theorem Stops.blanks {b rest : List Char} (hb : Blanks b) (h : Stops rest) : Stops (b ++ rest) := by
  cases b with
  | nil => exact h
  | cons c b =>
      intro d hd
      have hblank := hb c List.mem_cons_self
      rw [List.cons_append, List.head?_cons, Option.mem_some_iff] at hd
      subst hd
      have hne {e : Char} (he : isBlank e = false) : c ≠ e := by
        rintro rfl
        cases hblank.symm.trans he
      refine ⟨?_, hne rfl, hne rfl, hne rfl⟩
      cases hdigit : c.isDigit with
      | false => rfl
      | true => cases hblank.symm.trans (isBlank_of_isDigit hdigit)

/-- A value starts with a character that is neither a blank nor the end of a
    list. -/
theorem IsValue.exists_head {v : List Char} (h : IsValue v) :
    ∃ c t, v = c :: t ∧ isBlank c = false ∧ c ≠ ']' := by
  have hunsigned {cs : List Char} (hcs : IsUnsigned cs) :
      ∃ c t, cs = c :: t ∧ isBlank c = false ∧ c ≠ ']' := by
    obtain ⟨hw, hf, he⟩ := hcs
    cases hw with
    | zero => exact ⟨'0', _, rfl, rfl, by decide⟩
    | @digits c ds hc hzero hds =>
        exact ⟨c, _, rfl, isBlank_of_isDigit hc, ne_of_isDigit hc rfl⟩
  cases h with
  | word hw =>
      rw [mem_words_iff] at hw
      rcases hw with rfl | rfl | rfl <;> exact ⟨_, _, rfl, rfl, by decide⟩
  | numeral hn =>
      cases hn with
      | unsigned hn => exact hunsigned hn
      | negative hn => exact ⟨'-', _, rfl, rfl, by decide⟩
  | quoted => exact ⟨doubleQuote, _, rfl, rfl, by decide⟩
  | empty k => cases k <;> exact ⟨_, _, rfl, rfl, by decide⟩
  | full k => cases k <;> exact ⟨_, _, rfl, rfl, by decide⟩

/-! ### Blanks in front -/

section

variable {b cs rest : List Char} {c : Char}

theorem skipBlanks_append (hb : Blanks b) : skipBlanks (b ++ cs) = skipBlanks cs :=
  List.dropWhile_append_of_pos hb

theorem skipBlanks_cons (hc : isBlank c = false) : skipBlanks (c :: cs) = c :: cs :=
  List.dropWhile_cons_of_neg (ne_true_of_eq_false hc)

theorem skipBlanks_append_cons (hb : Blanks b) (hc : isBlank c = false) :
    skipBlanks (b ++ c :: cs) = c :: cs :=
  (skipBlanks_append hb).trans (skipBlanks_cons hc)

theorem exists_blanks (cs : List Char) : ∃ b, Blanks b ∧ cs = b ++ skipBlanks cs :=
  ⟨cs.takeWhile isBlank, fun _ hc => List.all_eq_true.mp List.all_takeWhile _ hc,
    List.takeWhile_append_dropWhile.symm⟩

theorem exists_of_skipBlanks (h : skipBlanks cs = rest) : ∃ b, Blanks b ∧ cs = b ++ rest :=
  h ▸ exists_blanks cs

/-- No blank is left in front of a value. -/
theorem skipBlanks_value {v : List Char} (hb : Blanks b) (hv : IsValue v) :
    skipBlanks (b ++ (v ++ rest)) = v ++ rest := by
  rcases hv.exists_head with ⟨c, t, rfl, hc, -⟩
  exact skipBlanks_append_cons hb hc

end

end Json

end OData
