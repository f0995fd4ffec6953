import OData.Schema.Identifier
import OData.Schema.Record
import OData.Text.Words

/-!
# Schema Expansion

The schema of a record names its fields on the wire. It consists of an
enumeration with a variant for every member, the wire name of every variant, a
marker type for the schema, and a module with a constructor for every member.

Variants are the names of the members in upper camel case, and the module is
the name of the record in snake case. The wire name of a member is its own
name, unless the attribute `odata` gives another one. If it gives several, the
last one counts.

What can go wrong is checked in a fixed order: the parameters and the body of
the record first, then every member with its variant before its attributes,
then the names made from the record's own, and at last whether a name is a
reserved word. The first problem is the answer.

## Main definitions

* `AttributeFault`, `ExpansionFault`: What can go wrong.
* `wireName?`: The wire name that attributes give.
* `SchemaField`: A member with its variant and wire name.
* `Constructor`, `Expansion`: The parts of a schema.
* `Record.expand`: The schema of a record.

## Theorems

* `itemName_eq_ok_iff`: An item gives a name exactly when it assigns a text that
  is not empty to the key `name`.
-/

namespace OData

namespace Schema

/-- What can be wrong with an `odata` attribute. -/
inductive AttributeFault where
  /-- The attribute stands alone. -/
  | noArguments
  /-- The attribute is assigned a text. -/
  | noParentheses
  /-- The key `name` stands alone. -/
  | noLiteral
  /-- The literal is no text. -/
  | notText
  /-- The text is empty. -/
  | emptyName
  /-- There is a key other than `name`. -/
  | unknownKey
  /-- There is something that is no item. -/
  | unreadable (complaint : String)
deriving DecidableEq

/-- The fault in words. -/
def AttributeFault.message : AttributeFault → String
  | noArguments => "expected attribute arguments in parentheses: #[odata(...)]"
  | noParentheses => "expected parentheses: #[odata(...)]"
  | noLiteral => "expected `=`"
  | notText => "expected string literal"
  | emptyName => "odata name must not be empty"
  | unknownKey => "unsupported odata attribute, expected `name = \"...\"`"
  | unreadable complaint => complaint

/-- Why a declaration has no schema. -/
inductive ExpansionFault where
  /-- The declaration has parameters. -/
  | generic
  /-- The declaration is no record. -/
  | notRecord
  /-- The members have no names. -/
  | unnamedMembers
  /-- An attribute of a member is wrong. -/
  | badAttribute (fault : AttributeFault)
  /-- A name that was made is no identifier. -/
  | invalidIdentifier (name : String)
  /-- A name that was made is a reserved word. -/
  | reservedWord (name : String)
deriving DecidableEq

/-- The fault in words, unless it lies in a name that was made. -/
def ExpansionFault.message? : ExpansionFault → Option String
  | generic => some "ODataSchema does not support generic structs"
  | notRecord => some "ODataSchema can only be derived for structs"
  | unnamedMembers => some "ODataSchema only supports structs with named fields"
  | badAttribute fault => some fault.message
  | invalidIdentifier _ | reservedWord _ => none

/-- The wire name that an item gives. -/
def itemName (item : AttributeItem) : Except AttributeFault String :=
  if item.key = "name" then
    match item.literal with
    | none => .error .noLiteral
    | some (.integer _) => .error .notText
    | some (.text s) => if s = "" then .error .emptyName else .ok s
  else .error .unknownKey

/-- The wire names that an attribute gives, in order. Attributes with another
    path give none. -/
def attributeNames (a : Attribute) : Except AttributeFault (List String) :=
  if a.path = "odata" then
    match a.form with
    | .bare => .error .noArguments
    | .assigned _ => .error .noParentheses
    | .list items => items.mapM itemName
    | .broken items complaint => do
      let _ ← items.mapM itemName
      .error (.unreadable complaint)
  else .ok []

/-- The wire name that attributes give: the last one of all. -/
def wireName? (as : List Attribute) : Except AttributeFault (Option String) := do
  let names ← as.mapM attributeNames
  return names.flatten.getLast?

/-- A member with the names made from it. -/
structure SchemaField where
  /-- The member. -/
  member : Member
  /-- Its variant in the enumeration. -/
  variant : String
  /-- Its wire name. -/
  wireName : String
deriving DecidableEq

/-- A name that was made, if it is an identifier. -/
def identifier (name : String) : Except ExpansionFault String :=
  if isIdentifier name.toList then .ok name else .error (.invalidIdentifier name)

/-- The field of a member. -/
def Member.schemaField (m : Member) : Except ExpansionFault SchemaField := do
  let bare := bareName m.name.toList
  let variant ← identifier (String.ofList (Text.upperCamel bare))
  let given ← (wireName? m.attributes).mapError .badAttribute
  return ⟨m, variant, given.getD (String.ofList bare)⟩

/-- A function that returns a reference to one field. -/
structure Constructor where
  /-- The name of the member, marked as raw if the member is. -/
  name : String
  /-- The variant of the field. -/
  variant : String
  /-- The return type without blanks. -/
  returns : String
deriving DecidableEq

/-- The schema of a record. -/
structure Expansion where
  /-- The visibility of all parts, without blanks. -/
  visibility : String
  /-- The record. -/
  entity : String
  /-- The enumeration of fields. -/
  fieldEnum : String
  /-- The marker type. -/
  schema : String
  /-- The module of constructors. -/
  moduleName : String
  /-- The variants in the order of the members. -/
  variants : List String
  /-- Variants and the wire names they stand for. -/
  wireNames : List (String × String)
  /-- The constructors. -/
  constructors : List Constructor
deriving DecidableEq

namespace Record

/-- The members of a record that can have a schema. -/
def schemaMembers (r : Record) : Except ExpansionFault (List Member) :=
  if r.isGeneric then .error .generic
  else
    match r.body with
    | .named members => .ok members
    | .tuple | .unit => .error .unnamedMembers
    | .enumeration | .union => .error .notRecord

/-- Checks that a name is no reserved word. -/
def checkName (name : String) : Except ExpansionFault Unit :=
  if isReserved name then .error (.reservedWord name) else .ok ()

/-- The constructor of a field in a schema of the given name. -/
def constructor (schema : String) (f : SchemaField) : Constructor where
  name := f.member.name
  variant := f.variant
  returns := Unicode.compact
    ("::odata_query::schema::FieldRef<super::" ++ schema ++ "," ++ f.member.type ++ ">")

/-- The schema of a record before its names are held against the reserved
    words. -/
def assemble (r : Record) : Except ExpansionFault Expansion := do
  let members ← r.schemaMembers
  let fields ← members.mapM Member.schemaField
  let fieldEnum ← identifier (r.name ++ "Field")
  let schema ← identifier (r.name ++ "Schema")
  let moduleName ← identifier (String.ofList (Text.snake r.name.toList))
  return {
    visibility := Unicode.compact r.visibility
    entity := r.name
    fieldEnum
    schema
    moduleName
    variants := fields.map SchemaField.variant
    wireNames := fields.map fun f => (f.variant, f.wireName)
    constructors := fields.map (constructor schema) }

/-- The schema of a record. -/
def expand (r : Record) : Except ExpansionFault Expansion := do
  let e ← r.assemble
  e.variants.forM checkName
  checkName e.moduleName
  return e

end Record

theorem itemName_eq_ok_iff (item : AttributeItem) (s : String) :
    itemName item = .ok s ↔ item.key = "name" ∧ item.literal = some (.text s) ∧ s ≠ "" := by
  obtain ⟨key, literal⟩ := item
  by_cases hk : key = "name"
  · rcases literal with _ | (t | n)
    · simp [itemName, hk]
    · by_cases ht : t = ""
      · simp only [itemName, hk, ht, if_true, reduceCtorEq, Option.some.injEq,
          AttributeLiteral.text.injEq, true_and, false_iff, not_and]
        exact fun h hs => hs h.symm
      · simp only [itemName, hk, ht, if_true, if_false, Except.ok.injEq, Option.some.injEq,
          AttributeLiteral.text.injEq, true_and]
        exact ⟨fun h => ⟨h, h ▸ ht⟩, And.left⟩
    · simp [itemName, hk]
  · simp [itemName, hk]

end Schema

end OData
