import OData.Field
import OData.Filter
import OData.Value

/-!
# Predicates

The atomic conditions on one field: a comparison with a literal, the tests for
null, membership in a list of literals, and the text functions.

A predicate is written with a blank on both sides of an operator and after
every comma. Literals are written as `Value.text` says, so text in a literal
stands between quotes. A test for null compares with the null literal.

References and paths each have all of these conditions. Plain text is taken as
a path. What is written depends on nothing but the path text.

## Main definitions

* `Filter.comparison`, `Filter.membership`, `Filter.call`: The three layouts.
* `FieldRef.eq`, `Path.eq` and their like: The conditions on a reference and on
  a path.
* `Comparison`, `TextFunction`: The operators and functions.
* `Field.compare` and its like: The conditions on a field in any form.
* `Predicate`: A condition on a field.
* `Predicate.toFilter`, `Predicate.text`: The condition as a fragment.

## Theorems

* `Field.compare_eq` and its like: The form of the field does not count.
-/

namespace OData

namespace Filter

/-- A path, an operator and a literal. -/
def comparison (path op : String) (value : Value) : Filter :=
  ⟨path ++ " " ++ op ++ " " ++ value.text⟩

/-- A path and a list of literals. -/
def membership (path : String) (values : List Value) : Filter :=
  ⟨path ++ " in (" ++ ", ".intercalate (values.map Value.text) ++ ")"⟩

/-- A function of a path and a text. -/
def call (function path text : String) : Filter :=
  ⟨function ++ "(" ++ path ++ ", " ++ (Value.string text).text ++ ")"⟩

end Filter

/-- The operators that compare a field with a literal. -/
inductive Comparison where
  | eq
  | ne
  | gt
  | ge
  | lt
  | le
deriving DecidableEq

/-- The word for an operator. -/
def Comparison.keyword : Comparison → String
  | eq => "eq"
  | ne => "ne"
  | gt => "gt"
  | ge => "ge"
  | lt => "lt"
  | le => "le"

/-- The functions that test a text field. -/
inductive TextFunction where
  | contains
  | startsWith
  | endsWith
deriving DecidableEq

/-- The name of a function. -/
def TextFunction.keyword : TextFunction → String
  | contains => "contains"
  | startsWith => "startswith"
  | endsWith => "endswith"

namespace FieldRef

/-- The field equals a literal. -/
def eq (r : FieldRef) (value : Value) : Filter :=
  .comparison r.name "eq" value

/-- The field does not equal a literal. -/
def ne (r : FieldRef) (value : Value) : Filter :=
  .comparison r.name "ne" value

/-- The field is greater than a literal. -/
def gt (r : FieldRef) (value : Value) : Filter :=
  .comparison r.name "gt" value

/-- The field is greater than a literal or equal to it. -/
def ge (r : FieldRef) (value : Value) : Filter :=
  .comparison r.name "ge" value

/-- The field is less than a literal. -/
def lt (r : FieldRef) (value : Value) : Filter :=
  .comparison r.name "lt" value

/-- The field is less than a literal or equal to it. -/
def le (r : FieldRef) (value : Value) : Filter :=
  .comparison r.name "le" value

/-- The field is null. -/
def isNull (r : FieldRef) : Filter :=
  .comparison r.name "eq" .null

/-- The field is not null. -/
def isNotNull (r : FieldRef) : Filter :=
  .comparison r.name "ne" .null

/-- The field is one of several literals. -/
def isIn (r : FieldRef) (values : List Value) : Filter :=
  .membership r.name values

/-- The field contains a text. -/
def contains (r : FieldRef) (text : String) : Filter :=
  .call "contains" r.name text

/-- The field starts with a text. -/
def startsWith (r : FieldRef) (text : String) : Filter :=
  .call "startswith" r.name text

/-- The field ends with a text. -/
def endsWith (r : FieldRef) (text : String) : Filter :=
  .call "endswith" r.name text

/-- The comparison by an operator. -/
def compare (r : FieldRef) : Comparison → Value → Filter
  | .eq => r.eq
  | .ne => r.ne
  | .gt => r.gt
  | .ge => r.ge
  | .lt => r.lt
  | .le => r.le

/-- The test by a function. -/
def call (r : FieldRef) : TextFunction → String → Filter
  | .contains => r.contains
  | .startsWith => r.startsWith
  | .endsWith => r.endsWith

@[simp]
theorem compare_eq (r : FieldRef) (op : Comparison) :
    r.compare op = .comparison r.name op.keyword := by
  cases op <;> rfl

@[simp]
theorem call_eq (r : FieldRef) (function : TextFunction) :
    r.call function = .call function.keyword r.name := by
  cases function <;> rfl

end FieldRef

namespace Path

/-- The field at the path equals a literal. -/
def eq (p : Path) (value : Value) : Filter :=
  .comparison p.text "eq" value

/-- The field at the path does not equal a literal. -/
def ne (p : Path) (value : Value) : Filter :=
  .comparison p.text "ne" value

/-- The field at the path is greater than a literal. -/
def gt (p : Path) (value : Value) : Filter :=
  .comparison p.text "gt" value

/-- The field at the path is greater than a literal or equal to it. -/
def ge (p : Path) (value : Value) : Filter :=
  .comparison p.text "ge" value

/-- The field at the path is less than a literal. -/
def lt (p : Path) (value : Value) : Filter :=
  .comparison p.text "lt" value

/-- The field at the path is less than a literal or equal to it. -/
def le (p : Path) (value : Value) : Filter :=
  .comparison p.text "le" value

/-- The field at the path is null. -/
def isNull (p : Path) : Filter :=
  .comparison p.text "eq" .null

/-- The field at the path is not null. -/
def isNotNull (p : Path) : Filter :=
  .comparison p.text "ne" .null

/-- The field at the path is one of several literals. -/
def isIn (p : Path) (values : List Value) : Filter :=
  .membership p.text values

/-- The field at the path contains a text. -/
def contains (p : Path) (text : String) : Filter :=
  .call "contains" p.text text

/-- The field at the path starts with a text. -/
def startsWith (p : Path) (text : String) : Filter :=
  .call "startswith" p.text text

/-- The field at the path ends with a text. -/
def endsWith (p : Path) (text : String) : Filter :=
  .call "endswith" p.text text

/-- The comparison by an operator. -/
def compare (p : Path) : Comparison → Value → Filter
  | .eq => p.eq
  | .ne => p.ne
  | .gt => p.gt
  | .ge => p.ge
  | .lt => p.lt
  | .le => p.le

/-- The test by a function. -/
def call (p : Path) : TextFunction → String → Filter
  | .contains => p.contains
  | .startsWith => p.startsWith
  | .endsWith => p.endsWith

@[simp]
theorem compare_eq (p : Path) (op : Comparison) :
    p.compare op = .comparison p.text op.keyword := by
  cases op <;> rfl

@[simp]
theorem call_eq (p : Path) (function : TextFunction) :
    p.call function = .call function.keyword p.text := by
  cases function <;> rfl

end Path

namespace Field

/-- The comparison of a field by an operator. -/
def compare : Field → Comparison → Value → Filter
  | text s => Path.compare ⟨s⟩
  | name s => FieldRef.compare ⟨s⟩
  | path p => p.compare

/-- The field is null. -/
def isNull : Field → Filter
  | text s => Path.isNull ⟨s⟩
  | name s => FieldRef.isNull ⟨s⟩
  | path p => p.isNull

/-- The field is not null. -/
def isNotNull : Field → Filter
  | text s => Path.isNotNull ⟨s⟩
  | name s => FieldRef.isNotNull ⟨s⟩
  | path p => p.isNotNull

/-- The field is one of several literals. -/
def isIn : Field → List Value → Filter
  | text s => Path.isIn ⟨s⟩
  | name s => FieldRef.isIn ⟨s⟩
  | path p => p.isIn

/-- The test of a field by a function. -/
def call : Field → TextFunction → String → Filter
  | text s => Path.call ⟨s⟩
  | name s => FieldRef.call ⟨s⟩
  | path p => p.call

@[simp]
theorem compare_eq (f : Field) (op : Comparison) :
    f.compare op = .comparison f.pathText op.keyword := by
  cases f <;> simp [compare, pathText]

@[simp]
theorem isNull_eq (f : Field) : f.isNull = .comparison f.pathText "eq" .null := by
  cases f <;> rfl

@[simp]
theorem isNotNull_eq (f : Field) : f.isNotNull = .comparison f.pathText "ne" .null := by
  cases f <;> rfl

@[simp]
theorem isIn_eq (f : Field) : f.isIn = .membership f.pathText := by
  cases f <;> rfl

@[simp]
theorem call_eq (f : Field) (function : TextFunction) :
    f.call function = .call function.keyword f.pathText := by
  cases f <;> simp [call, pathText]

end Field

/-- A condition on one field. -/
inductive Predicate where
  /-- The field compared with a literal. -/
  | compare (field : Field) (op : Comparison) (value : Value)
  /-- The field is null. -/
  | isNull (field : Field)
  /-- The field is not null. -/
  | isNotNull (field : Field)
  /-- The field is one of several literals. -/
  | isIn (field : Field) (values : List Value)
  /-- A text function of the field and a text. -/
  | call (function : TextFunction) (field : Field) (text : String)
deriving DecidableEq

namespace Predicate

/-- The predicate as a fragment. -/
def toFilter : Predicate → Filter
  | compare field op value => field.compare op value
  | isNull field => field.isNull
  | isNotNull field => field.isNotNull
  | isIn field values => field.isIn values
  | call function field text => field.call function text

/-- The predicate as it is written in a filter. -/
def text (p : Predicate) : String :=
  p.toFilter.text

end Predicate

end OData
