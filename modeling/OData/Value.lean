import OData.Calendar.Instant
import OData.Number
import OData.Text.Quoted
import OData.Uuid

/-!
# Literal Values

The values that a filter compares a field with, and the literals they are
written as. Nothing is percent-encoded.

Integers of a fixed width are numbers that were checked against a range. An
absent optional value is null.

## Main definitions

* `Value`: The eight kinds of literal.
* `Value.text`: The literal.
* `Value.same`: Equality, numeric on numbers and exact elsewhere.
* `IntegerType`: The fixed-width integer types.
* `Value.ofInteger?`: A number of such a type.

## Theorems

* `Value.same_refl`: Every value equals itself.
-/

namespace OData

/-- A literal value. -/
inductive Value where
  | null
  | bool (b : Bool)
  | number (n : Number)
  | uuid (u : Uuid)
  | dateTime (i : Instant)
  | date (d : Date)
  | time (t : TimeOfDay)
  | string (s : String)
deriving DecidableEq

/-- An integer type of a fixed width. -/
structure IntegerType where
  /-- How many bits a value has. -/
  bits : Nat
  /-- Whether one of them is a sign. -/
  signed : Bool
deriving DecidableEq

/-- Whether an integer is a value of the type. -/
def IntegerType.holds (t : IntegerType) (n : Int) : Bool :=
  let half : Int := Nat.pow 2 (t.bits - 1)
  let whole : Int := Nat.pow 2 t.bits
  if t.signed then -half ≤ n && n < half else 0 ≤ n && n < whole

namespace Value

/-- The integer as a number, if the type holds it. -/
def ofInteger? (t : IntegerType) (n : Int) : Option Value :=
  if t.holds n then some (.number (Number.ofInt n)) else none

/-- The literal of a value. -/
def text : Value → String
  | null => "null"
  | bool b => if b then "true" else "false"
  | number n => n.text
  | uuid u => u.text
  | dateTime i => i.text
  | date d => d.text
  | time t => t.text
  | string s => Text.quoted s

/-- Whether two values are equal: of one kind, and equal as values of it. Numbers
    are compared by what they denote. -/
def same : Value → Value → Bool
  | number m, number n => m.same n
  | v, w => v == w

@[simp]
theorem same_refl (v : Value) : v.same v = true := by
  cases v <;> simp [same, Number.same_refl]

end Value

end OData
