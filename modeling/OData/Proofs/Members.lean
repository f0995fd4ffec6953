import OData.Limits.Document
import OData.Proofs.Brackets
import OData.Proofs.WholeNumber

/-!
# Members and Elements

What the reader of limits makes of the items of a bracket. In an object they are
members, in any order and under any names. In a list they are values, one for
each cap, as far as they go. Either way each cap has a list of values that are
given for it, and that list alone decides: `Takes` says how a cap comes out of
it. No value leaves the cap as it is, a single one that is a natural number of 64
bits replaces it, and nothing else is a way out.

The two readers are unlike each other. One looks up a name and remembers which
caps it has seen, the other counts. They meet in `takes_set_iff`, which says that
setting a cap and going on with the values behind is the same as having had the
value in front of them.

## Main definitions

* `Limits.IsMember`, `Limits.IsElement`: The items of the two brackets.
* `Limits.valuesOf`: The values that are given for a cap.
* `Limits.Takes`: How a cap comes out.

## Theorems

* `Limits.takes_set_iff`: Setting a cap is having a value for it.
* `Limits.readMembers_eq_ok_iff`, `Limits.readElements_eq_ok_iff`: When the items
  of a bracket are accepted, and with which limits.
* `Limits.exists_of_readMembers`, `Limits.exists_of_readElements`: Nothing but
  such items is accepted.
-/

namespace OData

namespace Limits

open Json Skip Text

/-- A member with its name, in any spelling, and its value. -/
def IsMember (m : String × List Char) (cs : List Char) : Prop :=
  ∃ key b b', Spells key m.1.toList ∧ Blanks b ∧ Blanks b' ∧ IsValue m.2 ∧
    cs = doubleQuote :: (key ++ doubleQuote :: (b ++ ':' :: (b' ++ m.2)))

/-- An element, which is its value. -/
def IsElement (v cs : List Char) : Prop :=
  IsValue v ∧ cs = v

/-- The values that are given for a cap, in order. -/
def valuesOf {κ : Type} [DecidableEq κ] (k : κ) (ms : List (κ × List Char)) : List (List Char) :=
  (ms.filter fun m => m.1 = k).map Prod.snd

/-- How a cap comes out when values are given for it. -/
inductive Takes (old : Nat) : List (List Char) → Nat → Prop where
  | unset : Takes old [] old
  | set {n : Nat} (hn : n < 2 ^ 64) : Takes old [digits n] n

section

variable {κ : Type} [DecidableEq κ] {k : κ} {m : κ × List Char} {ms : List (κ × List Char)}

theorem valuesOf_cons_self (h : m.1 = k) : valuesOf k (m :: ms) = m.2 :: valuesOf k ms := by
  simp only [valuesOf, List.filter_cons, h, decide_true, if_true, List.map_cons]

theorem valuesOf_cons_of_ne (h : m.1 ≠ k) : valuesOf k (m :: ms) = valuesOf k ms := by
  simp only [valuesOf, List.filter_cons, h, decide_false, Bool.false_eq_true, if_false]

end

section

variable {old new n : Nat} {v : List Char} {vs : List (List Char)}

@[simp]
theorem takes_nil_iff : Takes old [] new ↔ new = old := by
  constructor
  · rintro ⟨⟩
    rfl
  · rintro rfl
    exact .unset

theorem takes_cons_iff : Takes old (v :: vs) new ↔ vs = [] ∧ v = digits new ∧ new < 2 ^ 64 := by
  constructor
  · rintro ⟨⟩
    exact ⟨rfl, rfl, ‹_›⟩
  · rintro ⟨rfl, rfl, hn⟩
    exact .set hn

theorem digits_inj {m n : Nat} (h : digits m = digits n) : m = n := by
  rw [← ofDigits_digits m, h, ofDigits_digits]

/-- Setting a cap and going on with values for the others is having had its value
    in front of them. -/
theorem takes_set_iff {ls ls' : Limits} {l : Limit} {before after : Limit → List (List Char)}
    (hn : n < 2 ^ 64) (hl : before l = digits n :: after l)
    (hother : ∀ m, m ≠ l → before m = after m) :
    ((∀ m, Takes ((ls.set l n).get m) (after m) (ls'.get m)) ∧ after l = []) ↔
      ∀ m, Takes (ls.get m) (before m) (ls'.get m) := by
  constructor
  · rintro ⟨htakes, hnil⟩ m
    have hm := htakes m
    rw [get_set] at hm
    by_cases heq : m = l
    · rw [if_pos heq] at hm
      subst heq
      rw [hnil, takes_nil_iff] at hm
      rw [hl, takes_cons_iff, hm]
      exact ⟨hnil, rfl, hn⟩
    · rw [if_neg heq, ← hother m heq] at hm
      exact hm
  · intro htakes
    have hcap := htakes l
    rw [hl, takes_cons_iff] at hcap
    rcases hcap with ⟨hnil, hdigits, -⟩
    refine ⟨fun m => ?_, hnil⟩
    rw [get_set]
    by_cases heq : m = l
    · rw [if_pos heq]
      subst heq
      rw [hnil, takes_nil_iff]
      exact (digits_inj hdigits).symm
    · rw [if_neg heq, ← hother m heq]
      exact htakes m

end

/-! ### Punctuation -/

section

variable {cs rest : List Char} {c : Char}

-- Three readers are this one with a character of their own.
theorem expect_iff : (match skipBlanks cs with
    | [] => (.error .truncated : Except Fault (List Char))
    | d :: rest => if d = c then .ok rest else .error .malformed) = .ok rest ↔
      skipBlanks cs = c :: rest := by
  split
  · rename_i h
    simp only [h, reduceCtorEq]
  · rename_i d rest' h
    rw [h]
    split
    · rename_i hd
      simp only [hd, Except.ok.injEq, List.cons.injEq, true_and]
    · rename_i hd
      simp only [reduceCtorEq, List.cons.injEq, hd, false_and]

@[simp]
theorem readColon_eq_ok_iff : readColon cs = .ok rest ↔ skipBlanks cs = ':' :: rest :=
  expect_iff

@[simp]
theorem openKey_eq_ok_iff : openKey cs = .ok rest ↔ skipBlanks cs = doubleQuote :: rest :=
  expect_iff

@[simp]
theorem closeList_eq_ok_iff : closeList cs = .ok rest ↔ skipBlanks cs = ']' :: rest :=
  expect_iff

end

/-! ### One member -/

section

variable {first : Bool} {seen : List Limit} {cs rest lead key : List Char} {name : String}

-- The comma in front of a member is read together with its key.
theorem readKey_lead (cs : List Char) (hlead : Lead first lead) (hkey : Spells key name.toList) :
    ∃ c t, skipBlanks (lead ++ doubleQuote :: (key ++ doubleQuote :: cs)) = c :: t ∧ c ≠ '\x7d' ∧
      readKey first (c :: t) = .ok (name, cs) := by
  have hread : readQuoted (key ++ doubleQuote :: cs) = .ok (name, cs) := by
    rw [readQuoted_append hkey, String.ofList_toList]
  have hopen {b : List Char} (hb : Blanks b) :
      openKey (b ++ doubleQuote :: (key ++ doubleQuote :: cs)) = .ok (key ++ doubleQuote :: cs) :=
    openKey_eq_ok_iff.mpr (skipBlanks_append_cons hb rfl)
  cases first with
  | true =>
      refine ⟨doubleQuote, _, skipBlanks_append_cons hlead rfl, by decide, ?_⟩
      have hfirst := hopen Blanks.nil
      rw [List.nil_append] at hfirst
      rw [readKey, openMember, if_pos rfl, hfirst]
      exact hread
  | false =>
      rcases hlead with ⟨b, b', hb, hb', rfl⟩
      rw [List.append_assoc, List.cons_append]
      refine ⟨',', _, skipBlanks_append_cons hb rfl, by decide, ?_⟩
      rw [readKey, openMember, if_neg Bool.false_ne_true, if_pos rfl, hopen hb']
      exact hread

theorem readMember_lead (hlead : Lead first lead) (hkey : Spells key name.toList) :
    readMember first seen (lead ++ doubleQuote :: (key ++ doubleQuote :: cs)) =
      readValue seen name cs := by
  rcases readKey_lead cs hlead hkey with ⟨c, t, hskip, hc, hread⟩
  simp only [readMember, hskip, hc, if_false, hread]
  rfl

theorem readMember_close {b : List Char} (hb : Blanks b) :
    readMember first seen (b ++ '\x7d' :: rest) = .ok (.closing, rest) := by
  have hskip : skipBlanks (b ++ '\x7d' :: rest) = '\x7d' :: rest := skipBlanks_append_cons hb rfl
  simp only [readMember, hskip, if_true]

theorem exists_of_readKey {c : Char} {t : List Char} (hskip : skipBlanks cs = c :: t)
    (h : readKey first (c :: t) = .ok (name, rest)) :
    ∃ lead key, Lead first lead ∧ Spells key name.toList ∧
      cs = lead ++ doubleQuote :: (key ++ doubleQuote :: rest) := by
  rcases exists_of_skipBlanks hskip with ⟨b, hb, rfl⟩
  rcases exists_of_bind_eq_ok h with ⟨inner, hopen, hread⟩
  rcases exists_of_readQuoted hread with ⟨key, rfl, hkey⟩
  simp only [openMember] at hopen
  split at hopen
  · rename_i hfirst
    rcases exists_of_skipBlanks (openKey_eq_ok_iff.mp hopen) with ⟨b', hb', heq⟩
    refine ⟨b ++ b', key, ?_, hkey, by rw [heq, List.append_assoc]⟩
    rw [hfirst]
    exact Lead.append hb hb'
  · rename_i hfirst
    split at hopen
    · rename_i hc
      rcases exists_of_skipBlanks (openKey_eq_ok_iff.mp hopen) with ⟨b', hb', rfl⟩
      refine ⟨b ++ ',' :: b', key, ?_, hkey, by rw [hc, List.append_assoc, List.cons_append]⟩
      rw [Bool.eq_false_iff.mpr hfirst]
      exact ⟨b, b', hb, hb', rfl⟩
    · cases hopen

theorem exists_of_readValue {m : Member} (h : readValue seen name cs = .ok (m, rest)) :
    m ≠ .closing ∧ ∃ b b' v, Blanks b ∧ Blanks b' ∧ IsValue v ∧
      cs = b ++ ':' :: (b' ++ (v ++ rest)) := by
  unfold readValue at h
  split at h
  · rcases exists_of_bind_eq_ok h with ⟨value, hcolon, h⟩
    rcases exists_of_bind_eq_ok h with ⟨after, hskip, h⟩
    cases h
    rcases exists_of_skipBlanks (readColon_eq_ok_iff.mp hcolon) with ⟨b, hb, rfl⟩
    rcases exists_of_skipValue hskip with ⟨b', v, hb', hv, rfl⟩
    exact ⟨by rintro ⟨⟩, b, b', v, hb, hb', hv, rfl⟩
  · split at h
    · cases h
    rcases exists_of_bind_eq_ok h with ⟨value, hcolon, h⟩
    rcases exists_of_bind_eq_ok h with ⟨⟨n, after⟩, hnatural, h⟩
    cases h
    rcases exists_of_skipBlanks (readColon_eq_ok_iff.mp hcolon) with ⟨b, hb, rfl⟩
    rcases exists_of_readNatural hnatural with ⟨b', hb', rfl, -, -⟩
    exact ⟨by rintro ⟨⟩, b, b', digits n, hb, hb', isValue_digits n, rfl⟩

theorem readValue_other {b b' v : List Char} (hname : Limit.ofKey? name = none) (hb : Blanks b)
    (hb' : Blanks b') (hv : IsValue v) (hrest : Stops rest) :
    readValue seen name (b ++ ':' :: (b' ++ (v ++ rest))) = .ok (.other, rest) := by
  have hcolon : readColon (b ++ ':' :: (b' ++ (v ++ rest))) = .ok (b' ++ (v ++ rest)) :=
    readColon_eq_ok_iff.mpr (skipBlanks_append_cons hb rfl)
  simp only [readValue, hname, hcolon, bind, Except.bind, skipValue_append hb' hv hrest]
  rfl

theorem readValue_seen {l : Limit} (hname : Limit.ofKey? name = some l) (hl : l ∈ seen) :
    readValue seen name cs = .error (.mismatch (.duplicateKey name)) := by
  simp only [readValue, hname, hl, if_true]

theorem readValue_cap {l : Limit} {b : List Char} (hname : Limit.ofKey? name = some l)
    (hl : l ∉ seen) (hb : Blanks b) :
    readValue seen name (b ++ ':' :: cs) =
      (readNatural l.expected cs).map fun p => (.cap l p.1, p.2) := by
  have hcolon : readColon (b ++ ':' :: cs) = .ok cs :=
    readColon_eq_ok_iff.mpr (skipBlanks_append_cons hb rfl)
  simp only [readValue, hname, hl, hcolon, if_false, bind, Except.bind]
  cases readNatural l.expected cs <;> rfl

theorem ne_key_of_ofKey? (h : Limit.ofKey? name = none) (l : Limit) : name ≠ l.key := by
  rintro rfl
  rw [Limit.ofKey?_key] at h
  cases h

theorem eq_key_of_ofKey? {l : Limit} (h : Limit.ofKey? name = some l) : name = l.key := by
  rw [Limit.ofKey?] at h
  have hkey := List.find?_some h
  exact (eq_of_beq hkey).symm

theorem ne_key_of_ne {l m : Limit} (h : Limit.ofKey? name = some l) (hm : m ≠ l) :
    name ≠ m.key := by
  rintro rfl
  rw [Limit.ofKey?_key] at h
  exact hm (Option.some.inj h)

/-- What is read is the end of the object or a member. -/
theorem exists_of_readMember {m : Member} (h : readMember first seen cs = .ok (m, rest)) :
    if m = .closing then ∃ b, Blanks b ∧ cs = b ++ '\x7d' :: rest
    else ∃ lead i a, Lead first lead ∧ IsMember a i ∧ cs = lead ++ (i ++ rest) := by
  unfold readMember at h
  split at h
  · cases h
  rename_i c t hskip
  split at h
  · rename_i hc
    cases h
    rw [hc] at hskip
    rw [if_pos rfl]
    exact exists_of_skipBlanks hskip
  · rcases exists_of_bind_eq_ok h with ⟨⟨name, after⟩, hkey, hvalue⟩
    rcases exists_of_readKey hskip hkey with ⟨lead, key, hlead, hspells, rfl⟩
    rcases exists_of_readValue hvalue with ⟨hm, b, b', v, hb, hb', hv, rfl⟩
    rw [if_neg hm]
    refine ⟨lead, _, (name, v), hlead, ⟨key, b, b', hspells, hb, hb', hv, rfl⟩, ?_⟩
    simp only [List.append_assoc, List.cons_append]

end

/-! ### All members -/

section

variable {first : Bool} {seen : List Limit} {cs rest : List Char} {ls ls' : Limits} {l : Limit}

/-- What is done with a member, without the proof that it takes up part of the
    text. -/
theorem readMembers_eq : readMembers first seen ls cs =
    match readMember first seen cs with
    | .error fault => .error fault
    | .ok (.closing, rest) => .ok (ls, rest)
    | .ok (.other, rest) => readMembers false seen ls rest
    | .ok (.cap l n, rest) => readMembers false (l :: seen) (ls.set l n) rest := by
  rw [readMembers]
  split <;> rename_i h <;> rw [h]

/-- Nothing but members up to the end of the object is accepted. -/
theorem exists_of_readMembers (h : readMembers first seen ls cs = .ok (ls', rest)) :
    ∃ ms, ItemsLeft .object IsMember first ms cs rest := by
  fun_induction readMembers first seen ls cs with
  | case1 first seen ls cs fault hmember => cases h
  | case2 first seen ls cs after hmember =>
      cases h
      rcases exists_of_readMember hmember with ⟨b, hb, rfl⟩
      exact ⟨[], .close hb⟩
  | case3 first seen ls cs after hmember ih =>
      rcases ih h with ⟨ms, hms⟩
      rcases exists_of_readMember hmember with ⟨lead, i, a, hlead, hi, rfl⟩
      exact ⟨a :: ms, .item hlead hi hms⟩
  | case4 first seen ls cs l n after hmember ih =>
      rcases ih h with ⟨ms, hms⟩
      rcases exists_of_readMember hmember with ⟨lead, i, a, hlead, hi, rfl⟩
      exact ⟨a :: ms, .item hlead hi hms⟩

theorem readMembers_close {b : List Char} (hb : Blanks b) :
    readMembers first seen ls (b ++ '\x7d' :: rest) = .ok (ls, rest) := by
  rw [readMembers_eq, readMember_close hb]

theorem takes_of_closed : (ls = ls' ↔ ∀ l, Takes (ls.get l) [] (ls'.get l)) := by
  constructor
  · rintro rfl l
    exact .unset
  · intro h
    exact (ext_get fun l => takes_nil_iff.mp (h l)).symm

/-- Members are accepted when no cap is set twice and every value for a cap is
    right, and the caps come out as they are set. -/
theorem readMembers_eq_ok_iff {ms : List (String × List Char)} {rest' : List Char}
    (h : ItemsLeft .object IsMember first ms cs rest) :
    readMembers first seen ls cs = .ok (ls', rest') ↔
      rest' = rest ∧ (∀ l, Takes (ls.get l) (valuesOf l.key ms) (ls'.get l)) ∧
        ∀ l ∈ seen, valuesOf l.key ms = [] := by
  induction h generalizing seen ls with
  | @close first b rest hb =>
      have hread : readMembers first seen ls (b ++ Bracket.object.closing :: rest) =
          .ok (ls, rest) :=
        readMembers_close hb
      rw [hread, Except.ok.injEq, Prod.mk.injEq, takes_of_closed, eq_comm (a := rest)]
      exact ⟨fun h => ⟨h.2, h.1, fun _ _ => rfl⟩, fun h => ⟨h.2.1, h.1⟩⟩
  | @item first m ms lead i more rest hlead hi h ih =>
      rcases m with ⟨name, v⟩
      rcases hi with ⟨key, b, b', hspells, hb, hb', hv, rfl⟩
      simp only [List.cons_append, List.append_assoc]
      rw [readMembers_eq, readMember_lead hlead hspells]
      cases hname : Limit.ofKey? name with
      | none =>
          -- A member of another name changes nothing.
          have hvalues (l : Limit) : valuesOf l.key ((name, v) :: ms) = valuesOf l.key ms :=
            valuesOf_cons_of_ne (ne_key_of_ofKey? hname l)
          simp only [readValue_other hname hb hb' hv h.stops, ih, hvalues]
      | some l =>
          have hvalues : valuesOf l.key ((name, v) :: ms) = v :: valuesOf l.key ms :=
            valuesOf_cons_self (eq_key_of_ofKey? hname)
          have hother (m : Limit) (hm : m ≠ l) :
              valuesOf m.key ((name, v) :: ms) = valuesOf m.key ms :=
            valuesOf_cons_of_ne (ne_key_of_ne hname hm)
          by_cases hl : l ∈ seen
          · simp only [readValue_seen hname hl, reduceCtorEq, false_iff]
            rintro ⟨-, -, hseen⟩
            have hnil := hseen l hl
            rw [hvalues] at hnil
            exact absurd hnil (List.cons_ne_nil _ _)
          rw [readValue_cap hname hl hb]
          rcases readNatural_value l.expected hb' hv h.stops with
            ⟨n, hn, hv, hread⟩ | ⟨hne, fault, hread⟩
          · have hunseen : (∀ m ∈ seen, valuesOf m.key ((name, v) :: ms) = []) ↔
                ∀ m ∈ seen, valuesOf m.key ms = [] :=
              forall₂_congr fun m hm => by rw [hother m fun heq => hl (heq ▸ hm)]
            rw [hread]
            simp only [Except.map]
            rw [ih, hunseen, ← takes_set_iff hn (hv ▸ hvalues) hother, and_assoc,
              List.forall_mem_cons]
          · simp only [hread, Except.map, reduceCtorEq, false_iff]
            rintro ⟨-, htakes, -⟩
            have hcap := htakes l
            rw [hvalues, takes_cons_iff] at hcap
            exact absurd hcap.2.1 (hne _ hcap.2.2)

end

/-! ### All elements -/

section

variable {first : Bool} {cs rest lead v : List Char} {ls ls' : Limits} {caps : List Limit}

-- The comma in front of an element is read together with the blanks behind it.
theorem openElement_lead (rest : List Char) (hlead : Lead first lead) (hv : IsValue v) :
    ∃ c t, skipBlanks (lead ++ (v ++ rest)) = c :: t ∧ c ≠ ']' ∧
      openElement first (c :: t) = .ok (v ++ rest) := by
  rcases hv.exists_head with ⟨d, t, rfl, hd, hclosing⟩
  cases first with
  | true => exact ⟨d, t ++ rest, skipBlanks_append_cons hlead hd, hclosing, rfl⟩
  | false =>
      rcases hlead with ⟨b, b', hb, hb', rfl⟩
      rw [List.append_assoc, List.cons_append]
      refine ⟨',', _, skipBlanks_append_cons hb rfl, by decide, ?_⟩
      have hskip : skipBlanks (b' ++ (d :: t ++ rest)) = d :: (t ++ rest) :=
        skipBlanks_append_cons hb' hd
      simp only [openElement, Bool.false_eq_true, if_false, if_true, hskip, hclosing]
      rfl

theorem exists_of_openElement {c : Char} {t element : List Char} (hskip : skipBlanks cs = c :: t)
    (h : openElement first (c :: t) = .ok element) :
    ∃ lead, Lead first lead ∧ cs = lead ++ element := by
  rcases exists_of_skipBlanks hskip with ⟨b, hb, rfl⟩
  cases first with
  | true =>
      cases h
      exact ⟨b, hb, rfl⟩
  | false =>
      simp only [openElement, Bool.false_eq_true, if_false] at h
      split at h
      · rename_i hc
        split at h
        · cases h
        rename_i d t' hskip'
        split at h
        · cases h
        cases h
        rcases exists_of_skipBlanks hskip' with ⟨b', hb', rfl⟩
        refine ⟨b ++ ',' :: b', ⟨b, b', hb, hb', rfl⟩, ?_⟩
        rw [hc, List.append_assoc, List.cons_append]
      · cases h

theorem readElements_close {b : List Char} (hb : Blanks b) :
    readElements first ls caps (b ++ ']' :: rest) = .ok (ls, rest) := by
  have hskip : skipBlanks (b ++ ']' :: rest) = ']' :: rest := skipBlanks_append_cons hb rfl
  cases caps with
  | nil => rw [readElements, closeList_eq_ok_iff.mpr hskip]; rfl
  | cons l caps => simp only [readElements, hskip, if_true]

theorem readElements_item {l : Limit} (hlead : Lead first lead) (hv : IsValue v) :
    readElements first ls (l :: caps) (lead ++ (v ++ rest)) =
      (readNatural l.expected (v ++ rest) >>= fun p =>
        readElements false (ls.set l p.1) caps p.2) := by
  rcases openElement_lead rest hlead hv with ⟨c, t, hskip, hc, hopen⟩
  simp only [readElements, hskip, hc, if_false, hopen]
  rfl

/-- Behind the last cap no element is accepted. -/
theorem readElements_full (ls : Limits) (rest : List Char) (hlead : Lead first lead)
    (hv : IsValue v) :
    ∃ fault, readElements first ls [] (lead ++ (v ++ rest)) = .error fault := by
  rcases openElement_lead rest hlead hv with ⟨c, t, hskip, hc, -⟩
  refine ⟨.malformed, ?_⟩
  simp only [readElements, closeList, hskip, hc, if_false]
  rfl

theorem valuesOf_zip_of_not_mem {l : Limit} (hl : l ∉ caps) (vs : List (List Char)) :
    valuesOf l (caps.zip vs) = [] := by
  rw [valuesOf, List.map_eq_nil_iff, List.filter_eq_nil_iff]
  rintro ⟨m, v⟩ hm
  rw [decide_eq_true_eq]
  rintro rfl
  exact hl (List.of_mem_zip hm).1

/-- Elements are accepted when there is a cap for each and every value is right,
    and the caps come out as they are set. -/
theorem readElements_eq_ok_iff {vs : List (List Char)} {rest' : List Char} (hcaps : caps.Nodup)
    (h : ItemsLeft .list IsElement first vs cs rest) :
    readElements first ls caps cs = .ok (ls', rest') ↔
      rest' = rest ∧ vs.length ≤ caps.length ∧
        ∀ l, Takes (ls.get l) (valuesOf l (caps.zip vs)) (ls'.get l) := by
  induction h generalizing caps ls with
  | @close first b rest hb =>
      have hread : readElements first ls caps (b ++ Bracket.list.closing :: rest) =
          .ok (ls, rest) :=
        readElements_close hb
      rw [hread, Except.ok.injEq, Prod.mk.injEq, takes_of_closed, eq_comm (a := rest),
        List.zip_nil_right]
      exact ⟨fun h => ⟨h.2, Nat.zero_le _, h.1⟩, fun h => ⟨h.2.2, h.1⟩⟩
  | @item first v vs lead i more rest hlead hi h ih =>
      rcases hi with ⟨hv, hi⟩
      rw [hi]
      cases caps with
      | nil =>
          rcases readElements_full ls more hlead hv with ⟨fault, hread⟩
          simp only [hread, reduceCtorEq, false_iff]
          exact fun hfits => absurd hfits.2.1 (Nat.not_succ_le_zero _)
      | cons l caps =>
          rcases List.nodup_cons.mp hcaps with ⟨hl, hcaps⟩
          have hnil := valuesOf_zip_of_not_mem hl vs
          have hvalues : valuesOf l ((l :: caps).zip (v :: vs)) = v :: valuesOf l (caps.zip vs) :=
            valuesOf_cons_self rfl
          have hother (m : Limit) (hm : m ≠ l) :
              valuesOf m ((l :: caps).zip (v :: vs)) = valuesOf m (caps.zip vs) :=
            valuesOf_cons_of_ne fun heq => hm heq.symm
          rw [readElements_item hlead hv]
          rcases readNatural_value l.expected Blanks.nil hv h.stops with
            ⟨n, hn, hv, hread⟩ | ⟨hne, fault, hread⟩
          · rw [List.nil_append] at hread
            rw [hread]
            simp only [bind, Except.bind]
            rw [ih hcaps, ← takes_set_iff hn (hv ▸ hvalues) hother, and_iff_left hnil]
            simp only [List.length_cons, Nat.add_le_add_iff_right]
          · rw [List.nil_append] at hread
            simp only [hread, bind, Except.bind, reduceCtorEq, false_iff]
            rintro ⟨-, -, htakes⟩
            have hcap := htakes l
            rw [hvalues, takes_cons_iff] at hcap
            exact absurd hcap.2.1 (hne _ hcap.2.2)

/-- Nothing but elements up to the end of the list is accepted. -/
theorem exists_of_readElements (h : readElements first ls caps cs = .ok (ls', rest)) :
    ∃ vs, ItemsLeft .list IsElement first vs cs rest := by
  induction caps generalizing first ls cs with
  | nil =>
      simp only [readElements] at h
      cases hclose : closeList cs with
      | error fault =>
          rw [hclose] at h
          cases h
      | ok after =>
          rw [hclose] at h
          cases h
          rcases exists_of_skipBlanks (closeList_eq_ok_iff.mp hclose) with ⟨b, hb, rfl⟩
          exact ⟨[], .close hb⟩
  | cons l caps ih =>
      simp only [readElements] at h
      split at h
      · cases h
      rename_i c t hskip
      split at h
      · rename_i hc
        cases h
        rcases exists_of_skipBlanks hskip with ⟨b, hb, rfl⟩
        exact ⟨[], hc ▸ .close hb⟩
      · rcases exists_of_bind_eq_ok h with ⟨element, hopen, h⟩
        rcases exists_of_bind_eq_ok h with ⟨⟨n, after⟩, hread, h⟩
        rcases ih h with ⟨vs, hvs⟩
        rcases exists_of_openElement hskip hopen with ⟨lead, hlead, rfl⟩
        rcases exists_of_readNatural hread with ⟨b, hb, rfl, -, -⟩
        rw [← List.append_assoc]
        exact ⟨digits n :: vs, .item (hlead.append hb) ⟨isValue_digits n, rfl⟩ hvs⟩

end

end Limits

end OData
