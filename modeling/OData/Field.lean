import OData.Text.Escaped

/-!
# Fields and Paths

A field of a nested record is named by a path: the names on the way, joined by
slashes. The slash is always written, even beside an empty name, so the path
of a chain of names determines the chain when no name holds a slash.

Wherever a field is asked for, it may be given as plain text, as the name of a
declared field, or as a path. All three stand for the same thing, their path
text, and nothing that is built from a field can tell them apart. Only a
description of the field itself shows which form it has.

## Main definitions

* `Path`: A slash-joined path.
* `Path.ofName`, `Path.child`: A path of one name, and one name further.
* `FieldRef`: A reference to a declared field.
* `FieldRef.path`, `FieldRef.child`: The paths that start at a reference.
* `Field`: A field in any of its forms.
* `Field.pathText`: The path the form stands for.
* `Field.description`: The form itself, for people to read.

## Theorems

* `Path.text_ofName`, `Path.text_child`: The text of a path, name by name.
-/

namespace OData

/-- A path through nested records. -/
structure Path where
  /-- The names on the way with slashes between them. -/
  text : String
deriving DecidableEq

namespace Path

/-- The path of a single field. -/
def ofName (name : String) : Path :=
  ⟨name⟩

/-- The path one field further in. -/
def child (p : Path) (name : String) : Path :=
  ⟨p.text ++ "/" ++ name⟩

/-- The path through several fields further in. -/
def descend (p : Path) (names : List String) : Path :=
  names.foldl child p

@[simp]
theorem text_ofName (name : String) : (ofName name).text = name := rfl

@[simp]
theorem text_child (p : Path) (name : String) : (p.child name).text = p.text ++ "/" ++ name := rfl

end Path

/-- A reference to a declared field. -/
structure FieldRef where
  /-- The name that the field has on the wire. -/
  name : String
deriving DecidableEq

namespace FieldRef

/-- The path of the field alone. -/
def path (r : FieldRef) : Path :=
  .ofName r.name

/-- The path to a field inside of this one. -/
def child (r : FieldRef) (name : String) : Path :=
  r.path.child name

end FieldRef

/-- A field, in one of the forms it may be given in. -/
inductive Field where
  /-- Plain text, taken as a path. -/
  | text (s : String)
  /-- The name of a declared field. -/
  | name (s : String)
  /-- A path. -/
  | path (p : Path)
deriving DecidableEq

/-- The path text that a field stands for. -/
def Field.pathText : Field → String
  | text s => s
  | name s => s
  | path p => p.text

/-- A description of the form, with the text inside it escaped. -/
def Field.description : Field → String
  | text s => Text.escaped s
  | name s => "FieldRef \x7b field: " ++ Text.escaped s ++ " \x7d"
  | path p => "FieldPath(" ++ Text.escaped p.text ++ ")"

end OData
