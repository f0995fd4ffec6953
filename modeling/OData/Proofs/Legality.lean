import OData.Proofs.Diagnosis
import OData.Proofs.Recased

/-!
# Names That Code May Use

The code that a schema becomes introduces names: the variants, the enumeration,
the marker type and the module. They are made from the names in the declaration,
which code may use, but whether code may use what is made from them is another
matter.

In upper camel case and in snake case, a name is made of characters that go on
with an identifier, so everything hangs on the first one. That is the image of
the first letter or digit of the name, since underscores in front are dropped.
If it does not start an identifier, or if the name has neither letters nor
digits, then there is no schema at all. So it is with members called `_1` or
`__`, although these are names.

Keywords are the other obstacle. All but `Self` are in lower case, so this is the
only one that a variant can be. A module can be any of the others, since a type
called `Type` has a module called `type`. Names that end in `Field` or `Schema`
are no keywords.

Nothing else is in the way. Without `odata` attributes, a record has a schema all
of whose names code may use exactly when it meets none of these obstacles.

## Main definitions

* `isKeyword`, `IsLegal`: The names that code may use.
* `Text.leads`: The first letter or digit of a name starts an identifier in
  another case.
* `Expansion.introduced`: The names that a schema introduces.

## Theorems

* `isIdentifier_upperCamel`, `isIdentifier_snake`: Identifiers in the two styles.
* `isLegal_variant_iff`, `isLegal_moduleName_iff`, `IsLegal.append`: What is made
  from names that code may use.
* `introduced_names_legal_iff`: When code may use all names of a schema.
* `legal_names_make_illegal_ones`: A declaration for each obstacle.
-/

namespace OData

open Unicode

namespace Schema

/-- The words that are no names in the edition of 2024. Next to the reserved words
    these are `gen` and `try`, which are not kept from being made the name of a
    module. -/
def keywords : List String :=
  "gen" :: "try" :: reservedWords

/-- Whether a text is a keyword. -/
def isKeyword (name : String) : Bool :=
  keywords.contains name

/-- A name that code may use: an identifier that is no keyword, and not the
    underscore alone. -/
def IsLegal (name : String) : Prop :=
  isIdentifier name.toList = true ∧ name ≠ "_" ∧ isKeyword name = false

instance (name : String) : Decidable (IsLegal name) :=
  inferInstanceAs (Decidable (_ ∧ _))

/-- The names that a schema introduces. -/
def Expansion.introduced (e : Expansion) : List String :=
  e.variants ++ [e.fieldEnum, e.schema, e.moduleName]

/-- The record's name in snake case. -/
def Record.moduleName (r : Record) : String :=
  String.ofList (Text.snake r.name.toList)

end Schema

namespace Text

open Schema

/-- In another case, the first letter or digit of a name starts an identifier. -/
def leads (casing : Char → List Char) (name : List Char) : Bool :=
  (name.find? isAlphanumeric).any fun c => (casing c).head?.any isIdentifierStart

variable {c : Char} {cs w name : List Char}

theorem isNamePart_of_isIdentifier (h : isIdentifier name = true) (hc : c ∈ name)
    (halphanumeric : isAlphanumeric c = true) : IsNamePart c := by
  have hunderscore : c ≠ '_' := by
    rintro rfl
    exact absurd halphanumeric (by decide)
  refine ⟨?_, hunderscore⟩
  cases name with
  | nil => exact absurd hc List.not_mem_nil
  | cons d rest =>
      simp only [isIdentifier, Bool.and_eq_true, Bool.or_eq_true, beq_iff_eq, List.all_eq_true] at h
      rcases List.mem_cons.mp hc with rfl | hc
      · exact isIdentifierContinue_of_isIdentifierStart (h.1.resolve_left hunderscore)
      · exact h.2 c hc

-- If a text goes on like an identifier, only its first character counts.
theorem isIdentifier_eq_head (hhead : ∀ c ∈ cs.head?, c ≠ '_')
    (hall : ∀ c ∈ cs, isIdentifierContinue c = true) :
    isIdentifier cs = cs.head?.any isIdentifierStart := by
  cases cs with
  | nil => rfl
  | cons c cs =>
      have hc : (c == '_') = false := beq_false_of_ne (hhead c rfl)
      have hrest : cs.all isIdentifierContinue = true :=
        List.all_eq_true.mpr (List.forall_mem_cons.mp hall).2
      rw [isIdentifier, hc, hrest, Bool.false_or, Bool.and_true]
      rfl

theorem isNamePart_of_mem_lowered (h : ∀ c ∈ w, IsNamePart c) : ∀ d ∈ lowered w, IsNamePart d := by
  induction w with
  | nil => exact nofun
  | cons c w ih =>
      rw [List.forall_mem_cons] at h
      intro d hd
      cases w with
      | nil =>
          rw [lowered] at hd
          split at hd
          · rw [List.mem_singleton.mp hd]
            decide +kernel
          · exact isNamePart_of_mem_toLowercase h.1 hd
      | cons b rest =>
          rw [lowered_cons_cons] at hd
          rcases List.mem_append.mp hd with hd | hd
          · exact isNamePart_of_mem_toLowercase h.1 hd
          · exact ih h.2 d hd

theorem isNamePart_of_mem_capitalized (h : ∀ c ∈ w, IsNamePart c) :
    ∀ d ∈ capitalized w, IsNamePart d := by
  cases w with
  | nil => exact nofun
  | cons c cs =>
      rw [List.forall_mem_cons] at h
      intro d hd
      rcases List.mem_append.mp hd with hd | hd
      · exact (isNamePart_of_mem_toUppercase h.1 hd).1
      · exact isNamePart_of_mem_lowered h.2 d hd

-- A sigma has two forms in lower case, and both start an identifier.
theorem head?_lowered_any (c : Char) (cs : List Char) :
    (lowered (c :: cs)).head?.any isIdentifierStart =
      (toLowercase c).head?.any isIdentifierStart := by
  cases cs with
  | nil =>
      by_cases hsigma : c = 'Σ'
      · rw [hsigma]
        decide +kernel
      · rw [lowered, if_neg hsigma]
  | cons d rest =>
      rw [lowered_cons_cons, List.head?_append_of_ne_nil _ (toLowercase_ne_nil c)]

theorem isNamePart_of_mem_words (h : isIdentifier name = true) (hw : w ∈ words name) :
    ∀ c ∈ w, IsNamePart c := fun _ hc =>
  isNamePart_of_isIdentifier h (mem_of_mem_words hw hc).1 (mem_of_mem_words hw hc).2

theorem isNamePart_of_mem_upperCamel (h : isIdentifier name = true) :
    ∀ d ∈ upperCamel name, IsNamePart d := by
  intro d hd
  rcases List.mem_flatMap.mp hd with ⟨w, hw, hd⟩
  exact isNamePart_of_mem_capitalized (isNamePart_of_mem_words h hw) d hd

-- The first character of a name in upper camel case, if there is one.
theorem head?_upperCamel (name : List Char) :
    (upperCamel name).head? =
      (name.find? isAlphanumeric).bind fun c => (toUppercase c).head? := by
  rcases words_cases name with ⟨hwords, hfind⟩ | ⟨c, w, ws, hwords, hfind⟩
  · rw [upperCamel, hwords, hfind]
    rfl
  · rw [upperCamel, hwords, hfind, List.flatMap_cons, capitalized, List.append_assoc,
      List.head?_append_of_ne_nil _ (toUppercase_ne_nil c)]
    rfl

/-- An identifier is one in upper camel case if its first letter or digit in
    upper case starts one. -/
theorem isIdentifier_upperCamel (h : isIdentifier name = true) :
    isIdentifier (upperCamel name) = leads toUppercase name := by
  have hparts := isNamePart_of_mem_upperCamel h
  rw [isIdentifier_eq_head (fun d hd => (hparts d (List.mem_of_mem_head? hd)).2)
    fun d hd => (hparts d hd).1, head?_upperCamel, leads]
  cases name.find? isAlphanumeric <;> rfl

-- In upper camel case a name does not begin with a letter from `a` to `z`.
theorem head?_upperCamel_isLower (h : isIdentifier name = true) :
    (upperCamel name).head?.any Char.isLower = false := by
  rw [head?_upperCamel]
  cases hfind : name.find? isAlphanumeric with
  | none => rfl
  | some c =>
      rw [Option.bind_some]
      cases hhead : (toUppercase c).head? with
      | none => rfl
      | some d =>
          have hc := isNamePart_of_isIdentifier h (List.mem_of_find?_eq_some hfind)
            (List.find?_some hfind)
          exact (isNamePart_of_mem_toUppercase hc (List.mem_of_mem_head? hhead)).2

theorem lowered_ne_nil (c : Char) (cs : List Char) : lowered (c :: cs) ≠ [] := by
  cases cs with
  | nil =>
      rw [lowered]
      split
      · exact List.cons_ne_nil _ _
      · exact toLowercase_ne_nil c
  | cons d rest =>
      rw [lowered_cons_cons]
      exact List.append_ne_nil_of_left_ne_nil (toLowercase_ne_nil c) _

theorem head?_intercalate (sep : List Char) (hw : w ≠ []) (ws : List (List Char)) :
    (sep.intercalate (w :: ws)).head? = w.head? := by
  by_cases hws : ws = []
  · rw [hws, List.intercalate_singleton]
  · rw [List.intercalate_cons_of_ne_nil hws, List.append_assoc, List.head?_append_of_ne_nil _ hw]

-- What is between the words of a name continues an identifier as well.
theorem isIdentifierContinue_of_mem_snake (h : isIdentifier name = true) :
    ∀ d ∈ snake name, isIdentifierContinue d = true := by
  intro d hd
  by_cases hws : (words name).map lowered = []
  · rw [snake, hws] at hd
    exact absurd hd List.not_mem_nil
  · have hmem := List.mem_cons_of_mem '_' hd
    rw [snake, ← flatMap_cons_eq_intercalate hws, List.mem_flatMap] at hmem
    rcases hmem with ⟨w', hw', hmem⟩
    rcases List.mem_map.mp hw' with ⟨w, hw, rfl⟩
    rcases List.mem_cons.mp hmem with rfl | hmem
    · decide
    · exact (isNamePart_of_mem_lowered (isNamePart_of_mem_words h hw) d hmem).1

theorem head?_snake {ws : List (List Char)} (hwords : words name = (c :: w) :: ws) :
    (snake name).head? = (lowered (c :: w)).head? := by
  rw [snake, hwords, List.map_cons, head?_intercalate _ (lowered_ne_nil c w)]

-- An underscore stands between words, and not in front of them.
theorem ne_underscore_of_mem_head?_snake (h : isIdentifier name = true) :
    ∀ d ∈ (snake name).head?, d ≠ '_' := by
  rcases words_cases name with ⟨hwords, _⟩ | ⟨c, w, ws, hwords, _⟩
  · rw [snake, hwords]
    exact nofun
  · have hw : c :: w ∈ words name := hwords ▸ List.mem_cons_self
    have hparts := isNamePart_of_mem_lowered (isNamePart_of_mem_words h hw)
    rw [head?_snake hwords]
    exact fun d hd => (hparts d (List.mem_of_mem_head? hd)).2

/-- An identifier is one in snake case if its first letter or digit in lower
    case starts one. -/
theorem isIdentifier_snake (h : isIdentifier name = true) :
    isIdentifier (snake name) = leads toLowercase name := by
  rw [isIdentifier_eq_head (ne_underscore_of_mem_head?_snake h)
    (isIdentifierContinue_of_mem_snake h), leads]
  rcases words_cases name with ⟨hwords, hfind⟩ | ⟨c, w, ws, hwords, hfind⟩
  · rw [snake, hwords, hfind]
    rfl
  · rw [head?_snake hwords, head?_lowered_any, hfind]
    rfl

end Text

namespace Schema

open Text

variable {r : Record} {e : Expansion} {m : Member} {name s : String}

theorem isKeyword_iff : isKeyword name = true ↔ name ∈ keywords :=
  List.contains_iff_mem

theorem keywords_isLower : ∀ k ∈ keywords, k = "Self" ∨ k.toList.head?.any Char.isLower = true := by
  decide

theorem bareName_of_isIdentifier {cs : List Char} (h : isIdentifier cs = true) :
    bareName cs = cs := by
  unfold bareName
  split
  next cs =>
    -- The mark is not made of what identifiers are made of.
    have hmark : isIdentifierContinue '#' = false := by decide
    rw [isIdentifier, List.all_cons, hmark, Bool.false_and, Bool.and_false] at h
    exact absurd h Bool.false_ne_true
  next => rfl

namespace IsLegal

/-- A name that code may use is still one with more behind it, unless a keyword
    ends like that. -/
theorem append (h : IsLegal name) (hall : s.toList.all isIdentifierContinue = true)
    (hend : ∀ k ∈ keywords, ¬ s.toList <:+ k.toList) : IsLegal (name ++ s) := by
  rcases h with ⟨hidentifier, hunderscore, hkeyword⟩
  cases hname : name.toList with
  | nil =>
      rw [hname] at hidentifier
      exact absurd hidentifier Bool.false_ne_true
  | cons c cs =>
      rw [hname, isIdentifier, Bool.and_eq_true] at hidentifier
      refine ⟨?_, ?_, ?_⟩
      · rw [String.toList_append, hname, List.cons_append, isIdentifier, List.all_append,
          hidentifier.1, hidentifier.2, hall]
        rfl
      · intro heq
        have hlist : name.toList ++ s.toList = ['_'] := by
          rw [← String.toList_append, heq]
          rfl
        rw [hname, List.cons_append, List.cons.injEq, List.append_eq_nil_iff] at hlist
        rw [String.toList_eq_nil_iff.mp hlist.2.2, String.append_empty] at heq
        exact hunderscore heq
      · rw [← Bool.not_eq_true, isKeyword_iff]
        intro hmem
        refine hend _ hmem ?_
        rw [String.toList_append]
        exact List.suffix_append _ _

end IsLegal

/-- Code may use a variant unless its first character does not start an
    identifier, or it is `Self`. -/
theorem isLegal_variant_iff (h : IsLegal m.name) :
    IsLegal m.variant ↔ leads toUppercase m.name.toList = true ∧ m.variant ≠ "Self" := by
  have hvariant : m.variant.toList = upperCamel m.name.toList := by
    rw [Member.variant, bareName_of_isIdentifier h.1, String.toList_ofList]
  have hparts := isNamePart_of_mem_upperCamel h.1
  have hlower := head?_upperCamel_isLower h.1
  rw [← isIdentifier_upperCamel h.1, ← hvariant]
  rw [← hvariant] at hparts hlower
  constructor
  · rintro ⟨hidentifier, _, hkeyword⟩
    refine ⟨hidentifier, fun heq => ?_⟩
    rw [heq] at hkeyword
    exact absurd hkeyword (by decide)
  · rintro ⟨hidentifier, hself⟩
    refine ⟨hidentifier, fun heq => ?_, ?_⟩
    · rw [heq] at hparts
      exact (hparts '_' (by decide)).2 rfl
    · rw [← Bool.not_eq_true, isKeyword_iff]
      intro hmem
      rcases keywords_isLower _ hmem with heq | hletter
      · exact hself heq
      · rw [hlower] at hletter
        exact Bool.false_ne_true hletter

/-- Code may use the name of a module unless its first character does not start
    an identifier, or it is a keyword. -/
theorem isLegal_moduleName_iff (h : IsLegal r.name) :
    IsLegal r.moduleName ↔
      leads toLowercase r.name.toList = true ∧ isKeyword r.moduleName = false := by
  have hmodule : r.moduleName.toList = snake r.name.toList := String.toList_ofList
  have hstart := isIdentifier_snake h.1
  rw [← hmodule] at hstart
  rw [IsLegal, hstart]
  constructor
  · exact fun hlegal => ⟨hlegal.1, hlegal.2.2⟩
  · rintro ⟨hleads, hkeyword⟩
    refine ⟨hleads, fun heq => ?_, hkeyword⟩
    have hnot := ne_underscore_of_mem_head?_snake h.1
    rw [← hmodule, heq] at hnot
    exact hnot '_' rfl rfl

namespace Record

theorem ownNames_of_assemble (h : r.assemble = .ok e) :
    [e.fieldEnum, e.schema, e.moduleName] = r.ownNames := by
  rcases exists_of_bind_eq_ok h with ⟨members, _, h⟩
  rcases exists_of_bind_eq_ok h with ⟨fields, _, h⟩
  rcases exists_of_bind_eq_ok h with ⟨fieldEnum, hfieldEnum, h⟩
  rcases exists_of_bind_eq_ok h with ⟨schema, hschema, h⟩
  rcases exists_of_bind_eq_ok h with ⟨moduleName, hmoduleName, h⟩
  rw [← Except.ok.inj h, eq_of_identifier hfieldEnum, eq_of_identifier hschema,
    eq_of_identifier hmoduleName]
  rfl

/-- The names that a schema introduces are the variants of its members and the
    names made from the record's own. -/
theorem introduced_of_assemble {members : List Member} (hbody : r.body = .named members)
    (h : r.assemble = .ok e) : e.introduced = members.map Member.variant ++ r.ownNames := by
  rw [Expansion.introduced, (lists_of_assemble hbody h).1, ownNames_of_assemble h]

end Record

/-- If code may use the names in a record, and there are no `odata` attributes,
    then there is a schema all of whose names code may use, exactly when the
    first letter or digit of every member starts an identifier in upper case, no
    member becomes `Self`, the first letter or digit of the record's own name
    starts an identifier in lower case, and its module is no keyword. -/
theorem introduced_names_legal_iff (r : Record) (members : List Member)
    (hgeneric : r.isGeneric = false) (hbody : r.body = .named members) (hname : IsLegal r.name)
    (hmembers : ∀ m ∈ members, IsLegal m.name ∧ ∀ a ∈ m.attributes, a.path ≠ "odata") :
    (∃ e, r.assemble = .ok e ∧ ∀ name ∈ e.introduced, IsLegal name) ↔
      (∀ m ∈ members, leads toUppercase m.name.toList = true ∧ m.variant ≠ "Self") ∧
        leads toLowercase r.name.toList = true ∧ isKeyword r.moduleName = false := by
  have hall : (∃ e, r.assemble = .ok e ∧ ∀ name ∈ e.introduced, IsLegal name) ↔
      ∀ name ∈ members.map Member.variant ++ r.ownNames, IsLegal name := by
    constructor
    · rintro ⟨e, he, hlegal⟩
      rw [Record.introduced_of_assemble hbody he] at hlegal
      exact hlegal
    · intro hlegal
      have hlegal' := List.forall_mem_append.mp hlegal
      -- Nothing is wrong, so there is a schema.
      have hfaults : r.faults = [] := by
        refine r.faults_eq_nil_iff.mpr ⟨hgeneric, ⟨members, hbody, fun m hm => ⟨?_, ?_⟩⟩, ?_⟩
        · exact (hlegal'.1 _ (List.mem_map_of_mem hm)).1
        · exact fun a ha hpath => absurd hpath ((hmembers m hm).2 a ha)
        · exact fun name hmem => (hlegal'.2 name hmem).1
      have hok : fault? r.assemble = none := by
        rw [r.fault?_assemble, hfaults]
        rfl
      rcases fault?_eq_none_iff.mp hok with ⟨e, he⟩
      refine ⟨e, he, ?_⟩
      rw [Record.introduced_of_assemble hbody he]
      exact hlegal
  have hfieldEnum : IsLegal (r.name ++ "Field") :=
    hname.append (by decide) (by decide)
  have hschema : IsLegal (r.name ++ "Schema") :=
    hname.append (by decide) (by decide)
  have hown : (∀ name ∈ r.ownNames, IsLegal name) ↔ IsLegal r.moduleName := by
    rw [Record.ownNames, List.forall_mem_cons, List.forall_mem_cons, List.forall_mem_singleton]
    exact ⟨fun h => h.2.2, fun h => ⟨hfieldEnum, hschema, h⟩⟩
  rw [hall, List.forall_mem_append, List.forall_mem_map, hown, isLegal_moduleName_iff hname]
  exact and_congr_left' (forall₂_congr fun m hm => isLegal_variant_iff (hmembers m hm).1)

/-- Names with an underscore in front, with letters beyond the first 128
    characters, and with a type that is no keyword in snake case. -/
theorem names_of_other_scripts_are_legal :
    let wide : Member := { name := "_ﬁxed_größe", type := "u64" }
    let long : Member := { name := "длина2", type := "u64", attributes := [⟨"serde", .bare⟩] }
    let r : Record := { name := "TypeΣ", body := .named [wide, long] }
    ∃ e, r.assemble = .ok e ∧ (∀ name ∈ e.introduced, IsLegal name) ∧
      e.introduced = ["FIxedGröße", "Длина2", "TypeΣField", "TypeΣSchema", "type_ς"] := by
  intro wide long r
  have hmembers : ∀ m ∈ [wide, long],
      IsLegal m.name ∧ ∀ a ∈ m.attributes, a.path ≠ "odata" := by
    decide +kernel
  rcases (introduced_names_legal_iff r [wide, long] (by decide) rfl (by decide +kernel)
    hmembers).mpr (by decide +kernel) with ⟨e, he, hlegal⟩
  exact ⟨e, he, hlegal, (Record.introduced_of_assemble rfl he).trans (by decide +kernel)⟩

/-- Code may use the names in each of these declarations, but the first one has
    no schema, a variant of the second one is `Self`, and the module of the third
    one is `type`. -/
theorem legal_names_make_illegal_ones :
    let unnamed : Member := { name := "_1", type := "u64" }
    let own : Member := { name := "self_", type := "u64" }
    let id : Member := { name := "id", type := "u64" }
    (∀ name ∈ ["_1", "self_", "id", "Pair", "Type"], IsLegal name) ∧
      Record.assemble { name := "Pair", body := .named [unnamed] } =
        .error (.invalidIdentifier "1") ∧
      Record.expand { name := "Pair", body := .named [own] } = .error (.reservedWord "Self") ∧
      Record.expand { name := "Type", body := .named [id] } = .error (.reservedWord "type") := by
  refine ⟨by decide, ?_, ?_, ?_⟩
  · exact fault?_eq_some_iff.mp (by decide)
  · exact fault?_eq_some_iff.mp (by decide)
  · exact fault?_eq_some_iff.mp (by decide)

end Schema

end OData
