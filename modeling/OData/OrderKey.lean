import OData.Direction
import OData.Field

/-!
# Sort Keys

A sort key is a path and, if one was asked for, a direction. It is given as a
field in any of its forms, and each form has a way of its own to become a sort
key, with a direction or without one. They all come to the same thing.

## Main definitions

* `SortKey`: A path with an optional direction.
* `SortKey.text`: The key as it stands in `$orderby`.
* `SortKey.ofText`, `SortKey.ofRef`, `SortKey.ofPath`: Keys without a direction.
* `FieldRef.asc`, `Path.asc` and their like: Keys with one.
* `OrderKey`: A sort key as it is given.

## Theorems

* `OrderKey.sortKey_eq`: The form of the field does not count.
-/

namespace OData

/-- One entry of `$orderby`. -/
structure SortKey where
  /-- The path to sort by. -/
  path : String
  /-- The direction, if one is written. -/
  dir : Option Direction
deriving DecidableEq

namespace SortKey

/-- The path, followed by the word for the direction if there is one. -/
def text (k : SortKey) : String :=
  match k.dir with
  | none => k.path
  | some d => k.path ++ " " ++ d.keyword

/-- Plain text as a key. -/
def ofText (s : String) : SortKey :=
  ⟨s, none⟩

/-- A reference as a key. -/
def ofRef (r : FieldRef) : SortKey :=
  ⟨r.name, none⟩

/-- A path as a key. -/
def ofPath (p : Path) : SortKey :=
  ⟨p.text, none⟩

end SortKey

namespace FieldRef

/-- The key that sorts by a reference in ascending order. -/
def asc (r : FieldRef) : SortKey :=
  ⟨r.name, some .asc⟩

/-- The key that sorts by a reference in descending order. -/
def desc (r : FieldRef) : SortKey :=
  ⟨r.name, some .desc⟩

/-- The key for a direction. -/
def ordered (r : FieldRef) : Direction → SortKey
  | .asc => r.asc
  | .desc => r.desc

end FieldRef

namespace Path

/-- The key that sorts by a path in ascending order. -/
def asc (p : Path) : SortKey :=
  ⟨p.text, some .asc⟩

/-- The key that sorts by a path in descending order. -/
def desc (p : Path) : SortKey :=
  ⟨p.text, some .desc⟩

/-- The key for a direction. -/
def ordered (p : Path) : Direction → SortKey
  | .asc => p.asc
  | .desc => p.desc

end Path

/-- A sort key as it is given: a field in any form, and a direction if one is
    asked for. -/
structure OrderKey where
  /-- The field to sort by. -/
  field : Field
  /-- The direction, if one is asked for. -/
  dir : Option Direction := none
deriving DecidableEq

namespace OrderKey

/-- The key, made in the way of the form that the field has. -/
def sortKey : OrderKey → SortKey
  | ⟨.text s, none⟩ => .ofText s
  | ⟨.name s, none⟩ => .ofRef ⟨s⟩
  | ⟨.path p, none⟩ => .ofPath p
  | ⟨.text s, some d⟩ => ⟨s, some d⟩
  | ⟨.name s, some d⟩ => FieldRef.ordered ⟨s⟩ d
  | ⟨.path p, some d⟩ => p.ordered d

/-- The key as it stands in `$orderby`. -/
def text (k : OrderKey) : String :=
  k.sortKey.text

/-- The form of the field does not count. -/
@[simp]
theorem sortKey_eq (k : OrderKey) : k.sortKey = ⟨k.field.pathText, k.dir⟩ := by
  rcases k with ⟨field, _ | d⟩
  · cases field <;> rfl
  · cases field <;> cases d <;> rfl

end OrderKey

end OData
