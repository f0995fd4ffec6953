import OData.Proofs.Accessors

/-!
# The First Fault of a Declaration

Making the schema of a record stops at the first thing that is wrong with its
declaration. What "first" means is given here without making anything:
`Record.faults` lists everything that is wrong, as if no fault kept others from
being seen. The parameters and the body come first, then the members in order,
and last the names that are made from the record's own. Of a member, its variant
comes before its attributes, and what these hold is gone through from left to
right.

A declaration has a schema when the list is empty, and otherwise the answer is
its head. So nothing that is wrong goes unnoticed, be it an item behind good
ones or an attribute behind others, and of several faults it is settled which
one is reported.

Whether the names that were made are reserved words is looked at only
afterwards, so `Record.assemble` is what is described.

## Main definitions

* `AttributeItem.Names`, `Attribute.Names`: Nothing but names are given.
* `AttributeItem.fault?`, `Attribute.faults`: What is wrong with an attribute.
* `nameFaults`: What is wrong with a name that was made.
* `Member.faults`, `Record.faults`: All that is wrong, in order.

## Theorems

* `AttributeItem.fault?_eq_none_iff`, `Attribute.faults_eq_nil_iff`: Nothing is
  wrong with what gives names.
* `fault?_wireName?`, `Member.fault?_schemaField`, `Record.fault?_assemble`: The
  fault that is reported is the first one.
* `Record.faults_eq_nil_iff`: Declarations without faults.
* `first_fault_is_reported`: All of it together.
-/

namespace OData

namespace Schema

/-- An item that assigns a text to the key `name`, and not an empty one. -/
def AttributeItem.Names (item : AttributeItem) : Prop :=
  item.key = "name" ∧ ∃ s, item.literal = some (.text s) ∧ s ≠ ""

/-- An attribute of items that all give a name. -/
def Attribute.Names (a : Attribute) : Prop :=
  ∃ items, a.form = .list items ∧ ∀ item ∈ items, item.Names

/-- What is wrong with an item, if it gives no name. -/
def AttributeItem.fault? (item : AttributeItem) : Option AttributeFault :=
  if item.key = "name" then
    match item.literal with
    | none => some .noLiteral
    | some (.integer _) => some .notText
    | some (.text s) => if s = "" then some .emptyName else none
  else some .unknownKey

/-- What is wrong with an attribute. With other paths than `odata` nothing is. -/
def Attribute.faults (a : Attribute) : List AttributeFault :=
  if a.path = "odata" then
    match a.form with
    | .bare => [.noArguments]
    | .assigned _ => [.noParentheses]
    | .list items => items.flatMap fun item => item.fault?.toList
    | .broken items complaint =>
      (items.flatMap fun item => item.fault?.toList) ++ [.unreadable complaint]
  else []

/-- What is wrong with a name that was made. -/
def nameFaults (name : String) : List ExpansionFault :=
  if isIdentifier name.toList then [] else [.invalidIdentifier name]

/-- What is wrong with a member: its variant first, then its attributes. -/
def Member.faults (m : Member) : List ExpansionFault :=
  nameFaults m.variant ++ (m.attributes.flatMap Attribute.faults).map .badAttribute

/-- What is wrong with the body of a declaration, and with its members. -/
def Body.faults : Body → List ExpansionFault
  | .named members => members.flatMap Member.faults
  | .tuple | .unit => [.unnamedMembers]
  | .enumeration | .union => [.notRecord]

namespace Record

/-- The names that are made from the record's own: the enumeration, the marker
    type and the module. -/
def ownNames (r : Record) : List String :=
  [r.name ++ "Field", r.name ++ "Schema", String.ofList (Text.snake r.name.toList)]

/-- All that is wrong with a declaration, in order. -/
def faults (r : Record) : List ExpansionFault :=
  (if r.isGeneric then [.generic] else []) ++ (r.body.faults ++ r.ownNames.flatMap nameFaults)

end Record

variable {r : Record} {e : Expansion} {a : Attribute} {m : Member}

theorem AttributeItem.fault?_eq_none_iff {item : AttributeItem} :
    item.fault? = none ↔ item.Names := by
  obtain ⟨key, literal⟩ := item
  by_cases hkey : key = "name"
  · rcases literal with _ | (s | n)
    · simp [fault?, Names, hkey]
    · simp [fault?, Names, hkey]
    · simp [fault?, Names, hkey]
  · simp [fault?, Names, hkey]

theorem Attribute.faults_eq_nil_iff : a.faults = [] ↔ (a.path = "odata" → a.Names) := by
  have hitems (items : List AttributeItem) :
      (items.flatMap fun item => item.fault?.toList) = [] ↔ ∀ item ∈ items, item.Names := by
    simp only [List.flatMap_eq_nil_iff, Option.toList_eq_nil_iff,
      AttributeItem.fault?_eq_none_iff]
  obtain ⟨path, form⟩ := a
  by_cases hpath : path = "odata"
  · cases form with
    | bare => simp [faults, Names, hpath]
    | assigned s => simp [faults, Names, hpath]
    | list items => simp [faults, Names, hpath, hitems]
    | broken items complaint => simp [faults, Names, hpath]
  · simp [faults, hpath]

@[simp]
theorem nameFaults_eq_nil_iff {name : String} :
    nameFaults name = [] ↔ isIdentifier name.toList = true := by
  simp [nameFaults]

-- Whether an item gives a name is looked at in the same order.
@[simp]
theorem fault?_itemName (item : AttributeItem) :
    OData.fault? (itemName item) = item.fault?.toList.head? := by
  unfold itemName AttributeItem.fault?
  by_cases hkey : item.key = "name"
  · rw [if_pos hkey, if_pos hkey]
    rcases item.literal with _ | (s | n)
    · rfl
    · by_cases hs : s = ""
      · simp only [if_pos hs]
        rfl
      · simp only [if_neg hs]
        rfl
    · rfl
  · rw [if_neg hkey, if_neg hkey]
    rfl

@[simp]
theorem fault?_attributeNames (a : Attribute) :
    fault? (attributeNames a) = a.faults.head? := by
  unfold attributeNames Attribute.faults
  by_cases hpath : a.path = "odata"
  · rw [if_pos hpath, if_pos hpath]
    cases a.form with
    | bare => rfl
    | assigned s => rfl
    | list items => exact fault?_mapM items fault?_itemName
    | broken items complaint =>
        exact fault?_bind (fault?_mapM items fault?_itemName) fun _ _ => rfl
  · rw [if_neg hpath, if_neg hpath]
    rfl

/-- The attributes of a member are gone through in order, and each from left to
    right. -/
@[simp]
theorem fault?_wireName? (as : List Attribute) :
    fault? (wireName? as) = (as.flatMap Attribute.faults).head? :=
  (fault?_bind_of_ok fun _ => rfl).trans (fault?_mapM as fault?_attributeNames)

@[simp]
theorem fault?_identifier (name : String) : fault? (identifier name) = (nameFaults name).head? := by
  unfold identifier nameFaults
  cases isIdentifier name.toList <;> rfl

/-- The variant of a member is looked at before its attributes. -/
@[simp]
theorem Member.fault?_schemaField (m : Member) : fault? m.schemaField = m.faults.head? :=
  fault?_bind (fault?_identifier _) fun _ _ => (fault?_bind_of_ok fun _ => rfl).trans
    (fault?_mapError ExpansionFault.badAttribute (fault?_wireName? m.attributes))

namespace Record

theorem flatMap_ownNames (r : Record) :
    r.ownNames.flatMap nameFaults = nameFaults (r.name ++ "Field") ++
      (nameFaults (r.name ++ "Schema") ++
        (nameFaults (String.ofList (Text.snake r.name.toList)) ++ [])) := by
  simp only [ownNames, List.flatMap_cons, List.flatMap_nil]

/-- The fault that is reported is the first one of all. -/
theorem fault?_assemble (r : Record) : fault? r.assemble = r.faults.head? := by
  unfold assemble schemaMembers faults
  cases r.isGeneric with
  | true => rfl
  | false =>
      cases r.body with
      | named members =>
          refine fault?_bind rfl fun ms hms => ?_
          rw [← Except.ok.inj hms, flatMap_ownNames]
          -- The members are gone through first, and then the record's own names.
          refine fault?_bind (fault?_mapM members Member.fault?_schemaField) fun fields _ => ?_
          refine fault?_bind (fault?_identifier _) fun fieldEnum _ => ?_
          refine fault?_bind (fault?_identifier _) fun schema _ => ?_
          exact fault?_bind (fault?_identifier _) fun moduleName _ => rfl
      | tuple | unit | enumeration | union => rfl

/-- A declaration has no fault when it has no parameters, its members have
    names, every variant is an identifier, every `odata` attribute gives names
    only, and the record's own names are made into identifiers as well. -/
theorem faults_eq_nil_iff (r : Record) :
    r.faults = [] ↔ r.isGeneric = false ∧
      (∃ members, r.body = .named members ∧ ∀ m ∈ members,
        isIdentifier m.variant.toList = true ∧
          ∀ a ∈ m.attributes, a.path = "odata" → a.Names) ∧
      ∀ name ∈ r.ownNames, isIdentifier name.toList = true := by
  have hmember (m : Member) : m.faults = [] ↔ isIdentifier m.variant.toList = true ∧
      ∀ a ∈ m.attributes, a.path = "odata" → a.Names := by
    simp [Member.faults, Attribute.faults_eq_nil_iff]
  have hbody : r.body.faults = [] ↔ ∃ members, r.body = .named members ∧ ∀ m ∈ members,
      isIdentifier m.variant.toList = true ∧
        ∀ a ∈ m.attributes, a.path = "odata" → a.Names := by
    cases r.body with
    | named members =>
        simp only [Body.faults, List.flatMap_eq_nil_iff, hmember, Body.named.injEq,
          exists_eq_left']
    | tuple | unit | enumeration | union => simp [Body.faults]
  have hgeneric : (if r.isGeneric then [ExpansionFault.generic] else []) = [] ↔
      r.isGeneric = false := by
    cases r.isGeneric <;> simp
  rw [faults, List.append_eq_nil_iff, List.append_eq_nil_iff, hgeneric, hbody,
    List.flatMap_eq_nil_iff]
  simp

end Record

/-- Making a schema fails exactly on declarations that are not well formed, and
    reports the first of all their faults. A declaration is not well formed if
    it has parameters, if its body is no record with named members, if a member
    has a variant that is no identifier or an `odata` attribute that gives
    something else than names, or if a name made from the record's own is no
    identifier. Otherwise there is a schema, and the wire name of a member in it
    is the last name that its attributes give, or its own name. -/
theorem first_fault_is_reported (r : Record) :
    ((∃ f, r.assemble = .error f) ↔
      r.isGeneric = true ∨ (∀ members, r.body ≠ .named members) ∨
        (∃ members, r.body = .named members ∧ ∃ m ∈ members,
          isIdentifier m.variant.toList = false ∨
            ∃ a ∈ m.attributes, a.path = "odata" ∧ ¬ a.Names) ∨
        ∃ name ∈ r.ownNames, isIdentifier name.toList = false) ∧
    (∀ f, r.assemble = .error f ↔ r.faults.head? = some f) ∧
    ∀ e, r.assemble = .ok e → ∃ members, r.body = .named members ∧
      e.wireNames = members.map fun m => (m.variant, m.wireName) := by
  have hfirst (f : ExpansionFault) : r.assemble = .error f ↔ r.faults.head? = some f := by
    rw [← fault?_eq_some_iff, r.fault?_assemble]
  have hmember (m : Member) :
      (isIdentifier m.variant.toList = false ∨ ∃ a ∈ m.attributes, a.path = "odata" ∧ ¬ a.Names) ↔
        ¬ (isIdentifier m.variant.toList = true ∧
          ∀ a ∈ m.attributes, a.path = "odata" → a.Names) := by
    simp only [not_and_or, Bool.not_eq_true, not_forall, exists_prop]
  refine ⟨?_, hfirst, fun e he => ?_⟩
  · have hsome : (∃ f, r.assemble = .error f) ↔ ¬ r.faults = [] := by
      simp only [hfirst, ← Option.isSome_iff_exists, List.isSome_head?]
    simp only [hsome, r.faults_eq_nil_iff, hmember]
    cases r.body with
    | named members =>
        simp only [Body.named.injEq, exists_eq_left', not_and_or, not_forall, exists_prop,
          Bool.not_eq_true, Bool.not_eq_false, ne_eq, forall_eq', false_or]
    | tuple | unit | enumeration | union => simp
  · rcases Record.exists_lists_of_assemble he with ⟨members, hbody, _, hwireNames, _⟩
    exact ⟨members, hbody, hwireNames⟩

-- A bad item behind a good one comes before the variant of the next member, and
-- the record's own name is not even looked at.
example :
    let items : List AttributeItem := [⟨"name", some (.text "Id")⟩, ⟨"name", some (.integer 1)⟩]
    let id : Member := { name := "id", type := "i64", attributes := [⟨"odata", .list items⟩] }
    let digit : Member := { name := "_1", type := "i64" }
    let r : Record := { name := "r#Mod", body := .named [id, digit] }
    r.faults = [.badAttribute .notText, .invalidIdentifier "1", .invalidIdentifier "r#ModField",
        .invalidIdentifier "r#ModSchema"] ∧
      fault? r.assemble = some (.badAttribute .notText) := by
  decide

end Schema

end OData
