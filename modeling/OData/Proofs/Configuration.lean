import OData.Proofs.Members

/-!
# Limits Come from a Document

Which documents are accepted, and what comes out of them. A document is an object
or a list, and its items say for each cap which values are given for it. Blanks,
the order of members, the spelling of names, and members of other names with
whatever they hold do not come into it.

So `Limits.ofJson` is described without its readers. The description says of an
object or a list when it is accepted and with which limits, in both directions.
In one direction it is that every well-formed layout of a configuration is
understood. In the other it is that a value that is given twice, or that is not a
natural number of 64 bits, never comes out as something else.

## Main definitions

* `Limits.IsObject`, `Limits.IsArray`: The two layouts of a document.
* `Limits.Configures`: The numbers that values give for the caps.
* `Limits.overridden`: The default limits with some caps replaced.

## Theorems

* `Limits.ofJson_object`, `Limits.ofJson_array`: When each layout is accepted.
* `Limits.layout_of_ofJson`: Nothing else is accepted.
* `Limits.configured_as_given`: What comes out of a document is what it gives.
-/

namespace OData

namespace Limits

open Json Skip Text

/-- The document is an object with the given members. -/
def IsObject (ms : List (String × List Char)) (document : String) : Prop :=
  Bracketed .object IsMember ms document.toList

/-- The document is a list of the given values. -/
def IsArray (vs : List (List Char)) (document : String) : Prop :=
  Bracketed .list IsElement vs document.toList

/-- The values for the caps are the numbers that are given for some of them. -/
def Configures (values : Limit → List (List Char)) (given : Limit → Option Nat) : Prop :=
  ∀ l, values l = (given l).toList.map digits ∧ ∀ n ∈ given l, n < 2 ^ 64

/-- The default limits with the given caps replaced. -/
def overridden (given : Limit → Option Nat) : Limits where
  maxTop := (given .top).getD default.maxTop
  maxOrderbyFields := (given .orderby).getD default.maxOrderbyFields
  maxSelectFields := (given .select).getD default.maxSelectFields
  maxFilterLength := (given .filter).getD default.maxFilterLength
  maxExpandDepth := (given .expand).getD default.maxExpandDepth

theorem get_overridden (given : Limit → Option Nat) (l : Limit) :
    (overridden given).get l = (given l).getD (default.get l) := by
  cases l <;> rfl

theorem takes_iff {old new : Nat} {values : List (List Char)} : Takes old values new ↔
    ∃ o : Option Nat, (values = o.toList.map digits ∧ ∀ n ∈ o, n < 2 ^ 64) ∧ new = o.getD old := by
  constructor
  · rintro (_ | hn)
    · exact ⟨none, ⟨rfl, fun n h => absurd h (Option.not_mem_none n)⟩, rfl⟩
    · exact ⟨some new, ⟨rfl, fun n h => by cases h; exact hn⟩, rfl⟩
  · rintro ⟨o, ⟨rfl, hn⟩, rfl⟩
    cases o with
    | none => exact .unset
    | some n => exact .set (hn n rfl)

/-- The caps come out as they are given. -/
theorem takes_iff_configures {values : Limit → List (List Char)} {ls : Limits} :
    (∀ l, Takes (default.get l) (values l) (ls.get l)) ↔
      ∃ given, Configures values given ∧ ls = overridden given := by
  constructor
  · intro htakes
    choose given hvalues hls using fun l => takes_iff.mp (htakes l)
    exact ⟨given, hvalues, ext_get fun l => by rw [get_overridden, hls l]⟩
  · rintro ⟨given, hvalues, rfl⟩ l
    exact takes_iff.mpr ⟨given l, hvalues l, get_overridden given l⟩

section

variable {cs rest : List Char} {ls : Limits} {document : String}

@[simp]
theorem finish_eq_ok_iff : finish cs = .ok () ↔ Blanks cs := by
  have hnil : (skipBlanks cs).isEmpty = true ↔ Blanks cs := by
    rw [List.isEmpty_iff, skipBlanks, List.dropWhile_eq_nil_iff]
    rfl
  unfold finish
  split
  · rename_i h
    exact ⟨fun _ => hnil.mp h, fun _ => rfl⟩
  · rename_i h
    refine ⟨fun hread => ?_, fun hcs => absurd (hnil.mpr hcs) h⟩
    cases hread

theorem ofJson_eq_ok_iff : ofJson document = .ok ls ↔
    ∃ rest, readDocument document.toList = .ok (ls, rest) ∧ Blanks rest := by
  constructor
  · intro h
    rcases exists_of_bind_eq_ok h with ⟨⟨ls', rest⟩, hread, h⟩
    rcases exists_of_bind_eq_ok h with ⟨⟨⟩, hfinish, h⟩
    cases h
    exact ⟨rest, hread, finish_eq_ok_iff.mp hfinish⟩
  · rintro ⟨rest, hread, hrest⟩
    simp only [ofJson, hread, bind, Except.bind, finish_eq_ok_iff.mpr hrest]
    rfl

/-- An object is accepted when every cap has one right value at most. -/
theorem ofJson_object {ms : List (String × List Char)} (h : IsObject ms document) :
    ofJson document = .ok ls ↔ ∀ l, Takes (default.get l) (valuesOf l.key ms) (ls.get l) := by
  rcases bracketed_iff.mp h with ⟨b, more, rest, hb, hleft, hrest, hdocument⟩
  have hread : readDocument document.toList = readMembers true [] default more := by
    have hskip : skipBlanks document.toList = '\x7b' :: more := by
      rw [hdocument]
      exact skipBlanks_append_cons hb rfl
    simp only [readDocument, hskip, if_true]
  simp only [ofJson_eq_ok_iff, hread, readMembers_eq_ok_iff hleft]
  constructor
  · rintro ⟨rest', ⟨-, htakes, -⟩, -⟩
    exact htakes
  · intro htakes
    exact ⟨rest, ⟨rfl, htakes, List.forall_mem_nil _⟩, hrest⟩

/-- A list is accepted when every value is right and has a cap. -/
theorem ofJson_array {vs : List (List Char)} (h : IsArray vs document) :
    ofJson document = .ok ls ↔ vs.length ≤ Limit.all.length ∧
      ∀ l, Takes (default.get l) (valuesOf l (Limit.all.zip vs)) (ls.get l) := by
  rcases bracketed_iff.mp h with ⟨b, more, rest, hb, hleft, hrest, hdocument⟩
  have hread : readDocument document.toList = readElements true default Limit.all more := by
    have hskip : skipBlanks document.toList = '[' :: more := by
      rw [hdocument]
      exact skipBlanks_append_cons hb rfl
    have hne : '[' ≠ '\x7b' := by decide
    simp only [readDocument, hskip, hne, if_false, if_true]
  have hcaps : Limit.all.Nodup := by decide
  simp only [ofJson_eq_ok_iff, hread, readElements_eq_ok_iff hcaps hleft]
  constructor
  · rintro ⟨rest', ⟨-, hfits⟩, -⟩
    exact hfits
  · intro hfits
    exact ⟨rest, ⟨rfl, hfits⟩, hrest⟩

/-- Nothing but objects and lists is accepted. -/
theorem layout_of_ofJson (h : ofJson document = .ok ls) :
    (∃ ms, IsObject ms document) ∨ ∃ vs, IsArray vs document := by
  rcases ofJson_eq_ok_iff.mp h with ⟨rest, hread, hrest⟩
  unfold readDocument at hread
  split at hread
  · cases hread
  rename_i c more hskip
  rcases exists_of_skipBlanks hskip with ⟨b, hb, hdocument⟩
  split at hread
  · rename_i hc
    rcases exists_of_readMembers hread with ⟨ms, hms⟩
    rw [hc] at hdocument
    exact .inl ⟨ms, bracketed_iff.mpr ⟨b, more, rest, hb, hms, hrest, hdocument⟩⟩
  split at hread
  · rename_i hc
    rcases exists_of_readElements hread with ⟨vs, hvs⟩
    rw [hc] at hdocument
    exact .inr ⟨vs, bracketed_iff.mpr ⟨b, more, rest, hb, hvs, hrest, hdocument⟩⟩
  · cases hread

end

/-- What comes out of a document is what it gives, whatever its layout. -/
theorem configured_as_given (document : String) :
    (∀ ms, IsObject ms document → ∀ ls, (ofJson document = .ok ls ↔
      ∃ given, Configures (fun l => valuesOf l.key ms) given ∧ ls = overridden given)) ∧
    (∀ vs, IsArray vs document → ∀ ls, (ofJson document = .ok ls ↔
      vs.length ≤ Limit.all.length ∧ ∃ given,
        Configures (fun l => valuesOf l (Limit.all.zip vs)) given ∧ ls = overridden given)) ∧
    ∀ ls, ofJson document = .ok ls →
      (∃ ms, IsObject ms document) ∨ ∃ vs, IsArray vs document := by
  refine ⟨fun ms hms ls => ?_, fun vs hvs ls => ?_, fun ls hls => layout_of_ofJson hls⟩
  · rw [ofJson_object hms, takes_iff_configures]
  · rw [ofJson_array hvs, takes_iff_configures]

/-- An object with an escape in a name, blanks, and a member that is passed over. -/
def escapedObject : String :=
  "\x7b\"max\\u005ftop\": 7, \"x\": [-1.5e3]\x7d"

theorem isObject_escapedObject :
    IsObject [("max_top", ['7']), ("x", ['[', '-', '1', '.', '5', 'e', '3', ']'])]
      escapedObject := by
  have hblank : Blanks [' '] := List.forall_mem_singleton.mpr rfl
  have htop : Spells ['m', 'a', 'x', '\\', 'u', '0', '0', '5', 'f', 't', 'o', 'p']
      "max_top".toList := by
    have hunit : IsUnit ['0', '0', '5', 'f'] := ⟨rfl, List.all_eq_true.mp rfl⟩
    have hlast : Spells ['t', 'o', 'p'] ['t', 'o', 'p'] :=
      .plain (by decide) (by decide) (by decide) (.plain (by decide) (by decide) (by decide)
        (.plain (by decide) (by decide) (by decide) .nil))
    exact .plain (by decide) (by decide) (by decide) (.plain (by decide) (by decide) (by decide)
      (.plain (by decide) (by decide) (by decide) (.unit hunit (by decide) (by decide) hlast)))
  have hx : Spells ['x'] "x".toList := .plain (by decide) (by decide) (by decide) .nil
  have hlist : IsValue ['[', '-', '1', '.', '5', 'e', '3', ']'] := by
    have hwhole : IsWhole ['1'] := .digits rfl (by decide) AllDigits.nil
    have hfraction : IsFraction ['.', '5'] := .digits rfl AllDigits.nil
    have hsign : [] ∈ signs := List.mem_cons_self
    have hexponent : IsExponent ['e', '3'] := .digits (.inl rfl) hsign rfl AllDigits.nil
    have hnumeral : IsValue ['-', '1', '.', '5', 'e', '3'] :=
      .numeral (.negative (.parts hwhole hfraction hexponent))
    exact .full .list (.last (.element Blanks.nil hnumeral Blanks.nil))
  have htopMember : Spaced IsMember ("max_top", ['7']) _ :=
    ⟨[], _, [], Blanks.nil, ⟨_, [], [' '], htop, Blanks.nil, hblank, isValue_digits 7, rfl⟩,
      Blanks.nil, rfl⟩
  have hxMember : Spaced IsMember ("x", ['[', '-', '1', '.', '5', 'e', '3', ']']) _ :=
    ⟨[' '], _, [], hblank, ⟨_, [], [' '], hx, Blanks.nil, hblank, hlist, rfl⟩, Blanks.nil, rfl⟩
  refine ⟨[], _, [], Blanks.nil, .inr (.more htopMember (.last hxMember)), Blanks.nil, ?_⟩
  decide

theorem configured_by_name_and_by_place :
    (IsObject [("max_top", ['7']), ("x", ['[', '-', '1', '.', '5', 'e', '3', ']'])] escapedObject ∧
      ofJson escapedObject = .ok { default with maxTop := 7 }) ∧
    (IsArray [digits 18446744073709551615] "[18446744073709551615]" ∧
      ofJson "[18446744073709551615]" = .ok { default with maxTop := 18446744073709551615 }) ∧
    ((∃ ms, IsObject ms escapedObject) ∨ ∃ vs, IsArray vs escapedObject) := by
  have hobject : ofJson escapedObject = .ok { default with maxTop := 7 } := by
    refine ((configured_as_given escapedObject).1 _ isObject_escapedObject _).mpr
      ⟨fun l => if l = .top then some 7 else none, fun l => ?_, rfl⟩
    cases l <;> exact ⟨by decide, by decide⟩
  have harray : IsArray [digits 18446744073709551615] "[18446744073709551615]" :=
    ⟨[], _, [], Blanks.nil, .inr (.last ⟨[], _, [], Blanks.nil, ⟨isValue_digits _, rfl⟩,
      Blanks.nil, rfl⟩), Blanks.nil, by decide⟩
  refine ⟨⟨isObject_escapedObject, hobject⟩, ⟨harray, ?_⟩,
    (configured_as_given escapedObject).2.2 _ hobject⟩
  refine ((configured_as_given "[18446744073709551615]").2.1 _ harray _).mpr ⟨by decide,
    fun l => if l = .top then some 18446744073709551615 else none, fun l => ?_, rfl⟩
  cases l <;> exact ⟨by decide, by decide⟩

end Limits

end OData
