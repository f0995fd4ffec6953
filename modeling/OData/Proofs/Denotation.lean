import OData.Proofs.DayCount
import OData.Proofs.Timestamp

/-!
# What Literals Denote

A literal carries no mark of its kind, so its kind has to be seen from its
characters. Three literals are words, and strings begin with a quote. Of the
others only instants hold a `T`, and of what is left only times hold a colon.
Dates, identifiers and numbers are told apart by their dashes: behind a first
sign there are two in a date, four in an identifier and at most one, in the
exponent, in a number.

Once its kind is known, a literal is read by the reader of that kind. What is
read is equal to what was written, and it is the very same value unless it is a
number. So two values with one literal are equal, and of one kind.

## Main definitions

* `LiteralKind`, `Value.kind`: The eight kinds of literal.
* `LiteralKind.ofText`: The kind that is seen from a text.
* `Text.undoubled?`, `Uuid.ofText?`, `Value.ofText?`: What a literal is read as.

## Theorems

* `Value.same_iff`: Equal values are the same, or numbers that denote the same.
* `Text.undoubled?_doubled`: Doubled quotes are read back.
* `LiteralKind.ofText_text`: The kind of a literal is seen.
* `Value.ofText?_text`: A literal is read as a value equal to the one that was
  written.
* `literals_denote_their_values`: Literals tell unequal values apart.
-/

namespace OData

open Text

/-- The text of which the quotes were doubled, up to the quote that closes it. -/
def Text.undoubled? : List Char → Option (List Char)
  | [] => none
  | [c] => if c = quote then some [] else none
  | c :: d :: cs =>
    if c = quote then
      if d = quote then (undoubled? cs).map (quote :: ·) else none
    else (undoubled? (d :: cs)).map (c :: ·)

@[simp]
theorem Text.undoubled?_doubled (cs : List Char) :
    undoubled? (doubled cs ++ [quote]) = some cs := by
  induction cs with
  | nil => rfl
  | cons c cs ih =>
      by_cases hc : c = quote
      · simp only [doubled, hc, if_true, List.cons_append, undoubled?, ih, Option.map_some]
      · -- The closing quote is behind it, if nothing else is.
        have hrest : ∃ d ds, doubled cs ++ [quote] = d :: ds := by
          cases doubled cs with
          | nil => exact ⟨quote, [], rfl⟩
          | cons d ds => exact ⟨d, ds ++ [quote], rfl⟩
        rcases hrest with ⟨d, ds, hrest⟩
        simp only [doubled, hc, if_false, List.cons_append]
        rw [hrest] at ih ⊢
        simp only [undoubled?, hc, if_false, ih, Option.map_some]

namespace Uuid

/-- The identifier that a literal is read as. -/
def ofText? (s : String) : Option Uuid :=
  ofHex? (String.ofList (s.toList.filter (· ≠ '-')))

@[simp]
theorem pieces_text (u : Uuid) : pieces '-' u.text = u.groups := by
  rw [text_eq]
  exact pieces_joined rfl nofun fun t ht => (u.over_groups t ht).closed (by decide)

-- The first digit is no sign.
@[simp]
theorem splitSign_text (u : Uuid) : splitSign u.text.toList = (1, u.text.toList) := by
  have hsign (d : Fin 16) : hexDigit d ≠ '-' ∧ hexDigit d ≠ '+' := by
    revert d
    decide
  rcases u with ⟨ds, hlength⟩
  cases ds with
  | nil => exact absurd hlength (by decide)
  | cons d ds =>
      have hhead : ∃ rest, (text ⟨d :: ds, hlength⟩).toList = hexDigit d :: rest := by
        rw [text_eq, groups, List.map_cons, List.map_cons, String.intercalate_cons_cons,
          String.toList_append, String.toList_append, String.toList_ofList]
        exact ⟨_, rfl⟩
      rcases hhead with ⟨rest, hhead⟩
      rw [hhead]
      exact splitSign_of_ne (hsign d).1 (hsign d).2

@[simp]
theorem filter_text (u : Uuid) : u.text.toList.filter (· ≠ '-') = u.digits.map hexDigit := by
  have hdigit (d : Fin 16) : decide (hexDigit d ≠ '-') = true := by
    revert d
    decide
  have hkept (ds : List (Fin 16)) : (ds.map hexDigit).filter (· ≠ '-') = ds.map hexDigit := by
    refine List.filter_eq_self.mpr fun c hc => ?_
    rcases List.mem_map.mp hc with ⟨d, -, rfl⟩
    exact hdigit d
  have hdash : "-".toList.filter (· ≠ '-') = [] := by decide
  -- The groups go on where the ones before them end.
  have hnext (start count : Nat) :
      (u.digits.drop start).take count ++ u.digits.drop (start + count) =
        u.digits.drop start := by
    rw [← List.drop_drop, List.take_append_drop]
  have hlast : (u.digits.drop 20).take 12 = u.digits.drop 20 := by
    refine List.take_of_length_le ?_
    rw [List.length_drop, u.length_eq]
  rw [text_eq, groups]
  simp only [List.map_cons, List.map_nil, String.intercalate_cons_cons,
    String.intercalate_singleton, String.toList_append, String.toList_ofList, List.filter_append,
    hkept, hdash, List.append_assoc, List.nil_append, ← List.map_append, hlast]
  rw [hnext 16 4, hnext 12 4, hnext 8 4, hnext 0 8, List.drop_zero]

@[simp]
theorem mapM_hexValue? (ds : List (Fin 16)) : (ds.map hexDigit).mapM hexValue? = some ds := by
  induction ds with
  | nil => rfl
  | cons d ds ih =>
      rw [List.map_cons, List.mapM_cons, hexValue?_hexDigit, ih]
      rfl

@[simp]
theorem ofText?_text (u : Uuid) : ofText? u.text = some u := by
  rw [ofText?, filter_text, ofHex?, String.toList_ofList, mapM_hexValue?]
  exact dif_pos u.length_eq

end Uuid

/-- The kinds of literal. -/
inductive LiteralKind where
  | null
  | bool
  | number
  | uuid
  | dateTime
  | date
  | time
  | string
deriving DecidableEq

/-- The kind of a value. -/
def Value.kind : Value → LiteralKind
  | null => .null
  | bool _ => .bool
  | number _ => .number
  | uuid _ => .uuid
  | dateTime _ => .dateTime
  | date _ => .date
  | time _ => .time
  | string _ => .string

namespace LiteralKind

/-- The kind that is seen from a text of digits and dashes. -/
def ofDashes (s : String) : LiteralKind :=
  let count := (pieces '-' (String.ofList (splitSign s.toList).2)).length
  if count = 3 then date else if count = 5 then uuid else number

/-- The kind that is seen from a text. -/
def ofText (s : String) : LiteralKind :=
  if s = "null" then null
  else if s = "true" ∨ s = "false" then bool
  else if s.toList.head? = some quote then string
  else if 'T' ∈ s.toList then dateTime
  else if ':' ∈ s.toList then time
  else ofDashes s

theorem ofText_of_isBare {s : String} (h : IsBare s) :
    ofText s =
      if 'T' ∈ s.toList then dateTime else if ':' ∈ s.toList then time else ofDashes s := by
  have hwords : ∀ w ∈ Value.constants, ¬ IsBare w := by decide
  have hword (w : String) (hw : w ∈ Value.constants) : s ≠ w := fun hs => hwords w hw (hs ▸ h)
  have hquote : s.toList.head? ≠ some quote := by
    intro hhead
    exact absurd (h quote (List.mem_of_mem_head? hhead)) (by decide)
  rw [ofText, if_neg (hword "null" (by decide)), if_neg, if_neg hquote]
  rintro (hs | hs)
  · exact hword "true" (by decide) hs
  · exact hword "false" (by decide) hs

theorem ofText_of_over {marks : List Char} {s : String} (h : Over (IsDigitOr marks) s)
    (hmarks : marks.all (fun c => IsLiteralChar c) = true)
    (hnone : ['T', ':'].all (fun c => ¬ IsDigitOr marks c) = true) : ofText s = ofDashes s := by
  have havoids : Avoids ['T', ':'] s := h.avoids hnone
  rw [ofText_of_isBare (h.isBare hmarks), if_neg (havoids.not_mem (by decide)),
    if_neg (havoids.not_mem (by decide))]

@[simp]
theorem ofDashes_number (x : Number) : ofDashes x.text = number := by
  by_cases hx : x.int = 0
  · rw [Number.text, if_pos hx]
    decide
  · have hcut : (cut '-' .start (Number.layout (digits x.int.natAbs) x.scale)).length ≤ 2 :=
      Nat.le_trans length_cut_le (Nat.succ_le_succ x.spells_abs.count_dash_le)
    rw [ofDashes, Number.splitSign_text hx, pieces, List.length_map, String.toList_ofList]
    dsimp only
    rw [if_neg (by omega), if_neg (by omega)]

@[simp]
theorem ofDashes_uuid (u : Uuid) : ofDashes u.text = uuid := by
  rw [ofDashes, u.splitSign_text, String.ofList_toList, u.pieces_text]
  rfl

@[simp]
theorem ofDashes_date (d : Date) : ofDashes d.text = date := by
  rcases d.splitSign_text with ⟨sign, hsplit, -⟩
  rw [ofDashes, hsplit, String.ofList_toList, d.pieces_fields]
  rfl

/-- The kind of a literal is seen. -/
theorem ofText_text (v : Value) : ofText v.text = v.kind := by
  cases v with
  | null => rfl
  | bool b => cases b <;> rfl
  | number x =>
      exact (ofText_of_over x.over_text (by decide) (by decide)).trans (ofDashes_number x)
  | uuid u =>
      exact (ofText_of_over u.over_text (by decide) (by decide)).trans (ofDashes_uuid u)
  | dateTime i =>
      have hT : 'T' ∈ i.text.toList := by
        simp only [Instant.text, String.toList_append, List.mem_append]
        exact Or.inl (Or.inl (Or.inr (by decide)))
      exact (ofText_of_isBare i.isBare_text).trans (if_pos hT)
  | date d =>
      exact (ofText_of_over d.over_text (by decide) (by decide)).trans (ofDashes_date d)
  | time t =>
      have hT : Avoids ['T'] t.text := t.over_text.avoids (by decide)
      have hcolon : ':' ∈ t.text.toList := by
        simp only [TimeOfDay.text, String.intercalate_cons_cons, String.toList_append,
          List.mem_append]
        exact Or.inl (Or.inl (Or.inr (by decide)))
      have hbare : IsBare t.text := t.over_text.isBare (by decide)
      exact (ofText_of_isBare hbare).trans
        ((if_neg (hT.not_mem (by decide))).trans (if_pos hcolon))
  | string s =>
      have hhead : (quoted s).toList.head? = some quote := by
        rw [quoted, String.toList_ofList]
        rfl
      have hwords : ∀ w ∈ Value.constants, w.toList.head? ≠ some quote := by decide
      have hword (w : String) (hw : w ∈ Value.constants) : quoted s ≠ w := by
        rintro rfl
        exact hwords _ hw hhead
      rw [Value.text, ofText, if_neg (hword "null" (by decide)), if_neg, if_pos hhead]
      · rfl
      · rintro (hs | hs)
        · exact hword "true" (by decide) hs
        · exact hword "false" (by decide) hs

end LiteralKind

namespace Value

/-- The value that a literal is read as. -/
def ofText? (s : String) : Option Value :=
  match LiteralKind.ofText s with
  | .null => some null
  | .bool => some (bool (s = "true"))
  | .number => (Number.ofLiteral? s.toList).map number
  | .uuid => (Uuid.ofText? s).map uuid
  | .dateTime => (Instant.ofText? s).map dateTime
  | .date => (Date.ofText? s).map date
  | .time => (TimeOfDay.ofText? s).map time
  | .string => (undoubled? (s.toList.drop 1)).map fun cs => string (String.ofList cs)

/-- A literal is read as a value equal to the one that was written. -/
@[simp]
theorem ofText?_text (v : Value) : ∃ w, ofText? v.text = some w ∧ w.same v = true := by
  have hread {w : Value} (hw : ofText? w.text = some w) :
      ∃ w', ofText? w.text = some w' ∧ w'.same w = true := ⟨w, hw, same_refl w⟩
  have hkind := LiteralKind.ofText_text v
  cases v with
  | null => exact hread rfl
  | bool b => cases b <;> exact hread rfl
  | number x =>
      rcases x.ofLiteral?_text with ⟨y, hy, hsame⟩
      refine ⟨number y, ?_, hsame⟩
      rw [ofText?, hkind]
      exact congrArg (Option.map number) hy
  | uuid u =>
      refine hread ?_
      rw [ofText?, hkind]
      exact congrArg (Option.map uuid) u.ofText?_text
  | dateTime i =>
      refine hread ?_
      rw [ofText?, hkind]
      exact congrArg (Option.map dateTime) i.ofText?_text
  | date d =>
      refine hread ?_
      rw [ofText?, hkind]
      exact congrArg (Option.map date) d.ofText?_text
  | time t =>
      refine hread ?_
      rw [ofText?, hkind]
      exact congrArg (Option.map time) t.ofText?_text
  | string s =>
      refine hread ?_
      have hbody : (quoted s).toList.drop 1 = doubled s.toList ++ [quote] := by
        rw [quoted, String.toList_ofList]
        rfl
      rw [ofText?, hkind, text, hbody, undoubled?_doubled]
      exact congrArg (some ∘ string) (String.ofList_toList)

section

variable {u v w : Value}

theorem same_iff_eq (h : v.kind ≠ .number ∨ w.kind ≠ .number) : v.same w = true ↔ v = w := by
  cases v with
  | number x =>
      cases w with
      | number y => exact h.elim (absurd rfl) (absurd rfl)
      | _ => exact beq_iff_eq
  | _ => exact beq_iff_eq

@[simp]
theorem same_number_iff {x y : Number} :
    (number x).same (number y) = true ↔ x.value = y.value :=
  Number.same_iff_value_eq

/-- Equal values are the same value, or numbers that denote one rational. -/
theorem same_iff :
    v.same w = true ↔ v = w ∨ ∃ x y, v = number x ∧ w = number y ∧ x.value = y.value := by
  constructor
  · intro h
    cases v with
    | number x =>
        cases w with
        | number y => exact Or.inr ⟨x, y, rfl, rfl, same_number_iff.mp h⟩
        | _ =>
            refine Or.inl ((same_iff_eq (Or.inr ?_)).mp h)
            nofun
    | _ =>
        refine Or.inl ((same_iff_eq (Or.inl ?_)).mp h)
        nofun
  · rintro (rfl | ⟨x, y, rfl, rfl, h⟩)
    · exact same_refl v
    · exact same_number_iff.mpr h

/-- Two values that equal a third are equal. -/
theorem same_of_same (hv : u.same v = true) (hw : u.same w = true) : v.same w = true := by
  rcases same_iff.mp hv with rfl | ⟨x, y, rfl, rfl, hxy⟩
  · exact hw
  · rcases same_iff.mp hw with rfl | ⟨x', z, hx, rfl, hxz⟩
    · exact same_number_iff.mpr hxy.symm
    · cases hx
      exact same_number_iff.mpr (hxy.symm.trans hxz)

theorem same_of_text_eq (h : v.text = w.text) : v.same w = true := by
  rcases ofText?_text v with ⟨u, hu, huv⟩
  rcases ofText?_text w with ⟨u', hu', huw⟩
  rw [← h, hu, Option.some.injEq] at hu'
  exact same_of_same huv (hu' ▸ huw)

theorem kind_eq_of_text_eq (h : v.text = w.text) : v.kind = w.kind := by
  rw [← LiteralKind.ofText_text v, h, LiteralKind.ofText_text]

/-- A literal that is not of a number determines its value. -/
theorem eq_of_text_eq (hkind : v.kind ≠ .number) (h : v.text = w.text) : v = w :=
  (same_iff_eq (Or.inl hkind)).mp (same_of_text_eq h)

end

end Value

/-- Literals denote exactly their values. A literal is read as a value equal to
    the one that was written, so values with one literal are equal and of one
    kind. Equal numbers denote one rational, and everything else is equal only
    to itself: texts, times with their leap seconds, and instants with the
    counts they were made from. -/
theorem literals_denote_their_values :
    (∀ v : Value, ∃ w, Value.ofText? v.text = some w ∧ w.same v = true) ∧
    (∀ v w : Value, v.text = w.text → v.same w = true ∧ v.kind = w.kind) ∧
    (∀ x y : Number, (Value.number x).same (.number y) = true ↔ x.value = y.value) ∧
    (∀ s t : String, (Value.string s).text = (Value.string t).text → s = t) ∧
    (∀ t u : TimeOfDay, (Value.time t).text = (Value.time u).text → t = u) ∧
    (∀ (secs secs' : Int) (nanos nanos' : Nat) (i j : Instant),
      Instant.ofUnix? secs nanos = some i → Instant.ofUnix? secs' nanos' = some j →
      (Value.dateTime i).text = (Value.dateTime j).text → secs = secs' ∧ nanos = nanos') := by
  refine ⟨Value.ofText?_text, fun v w h => ⟨Value.same_of_text_eq h, Value.kind_eq_of_text_eq h⟩,
    fun x y => Value.same_number_iff, fun s t h => ?_, fun t u h => ?_, ?_⟩
  · exact Value.string.inj (Value.eq_of_text_eq nofun h)
  · exact Value.time.inj (Value.eq_of_text_eq nofun h)
  · intro secs secs' nanos nanos' i j hi hj h
    have hij : i = j := Value.dateTime.inj (Value.eq_of_text_eq nofun h)
    -- The counts are seen from the instant.
    rcases Instant.ofUnix?_eq_some_iff.mp hi with ⟨hsecs, hnanos⟩
    rcases Instant.ofUnix?_eq_some_iff.mp hj with ⟨hsecs', hnanos'⟩
    rw [hij] at hsecs hnanos
    exact ⟨hsecs.symm.trans hsecs', hnanos.symm.trans hnanos'⟩

/-- The last second of 2016 was a leap second, and its literal is not that of
    the second after it. One thousand is written alike from two pairs, which are
    equal. -/
theorem leap_second_stands_apart :
    (∃ i j : Instant, Instant.ofUnix? 1483228799 1000000000 = some i ∧
      Instant.ofUnix? 1483228800 0 = some j ∧ i.text = "2016-12-31T23:59:60Z" ∧
      (Value.dateTime i).text ≠ (Value.dateTime j).text) ∧
    (Value.number ⟨1, -3⟩).text = (Value.number ⟨1000, 0⟩).text ∧
      (Value.number ⟨1, -3⟩).same (.number ⟨1000, 0⟩) = true := by
  rcases literals_denote_their_values with ⟨-, hsame, -, -, -, hcounts⟩
  constructor
  · have hleap : Instant.ofUnix? 1483228799 1000000000 =
        some ⟨⟨2016, 12, 31, by decide⟩, ⟨86399, 1000000000, by decide⟩⟩ := rfl
    have hnext : Instant.ofUnix? 1483228800 0 =
        some ⟨⟨2017, 1, 1, by decide⟩, ⟨0, 0, by decide⟩⟩ := rfl
    refine ⟨_, _, hleap, hnext, by decide, fun htext => ?_⟩
    exact absurd (hcounts _ _ _ _ _ _ hleap hnext htext).1 (by decide)
  · have htext : (Value.number ⟨1, -3⟩).text = (Value.number ⟨1000, 0⟩).text := by decide
    exact ⟨htext, (hsame _ _ htext).1⟩

end OData
