/-!
# Universally Unique Identifiers

An identifier is 32 hexadecimal digits. The literal writes them in lower case
in groups of 8, 4, 4, 4 and 12 with hyphens between, and they are read from the
bare digits in either case.

## Main definitions

* `Uuid`: Thirty-two hexadecimal digits.
* `Uuid.ofHex?`: The identifier for a text of bare digits.
* `Uuid.text`: The literal.

## Theorems

* `Uuid.hexValue?_hexDigit`: A written digit is read back.
-/

namespace OData

/-- An identifier, digit by digit from the left. -/
structure Uuid where
  /-- The hexadecimal digits. -/
  digits : List (Fin 16)
  /-- There are thirty-two of them. -/
  length_eq : digits.length = 32
deriving DecidableEq

namespace Uuid

/-- The lower-case hexadecimal digit of a value. -/
def hexDigit (d : Fin 16) : Char :=
  if d.val < 10 then Char.ofNat ('0'.toNat + d.val) else Char.ofNat ('a'.toNat + (d.val - 10))

/-- The value of a hexadecimal digit in either case. -/
def hexValue? (c : Char) : Option (Fin 16) :=
  if '0' ≤ c ∧ c ≤ '9' then some (Fin.ofNat 16 (c.toNat - '0'.toNat))
  else if 'a' ≤ c ∧ c ≤ 'f' then some (Fin.ofNat 16 (c.toNat - 'a'.toNat + 10))
  else if 'A' ≤ c ∧ c ≤ 'F' then some (Fin.ofNat 16 (c.toNat - 'A'.toNat + 10))
  else none

/-- The identifier for a text of thirty-two bare hexadecimal digits. -/
def ofHex? (s : String) : Option Uuid :=
  match s.toList.mapM hexValue? with
  | none => none
  | some ds => if h : ds.length = 32 then some ⟨ds, h⟩ else none

/-- The literal, in lower case and hyphenated. -/
def text (u : Uuid) : String :=
  let part (start count : Nat) := String.ofList (((u.digits.drop start).take count).map hexDigit)
  "-".intercalate [part 0 8, part 8 4, part 12 4, part 16 4, part 20 12]

theorem hexValue?_hexDigit (d : Fin 16) : hexValue? (hexDigit d) = some d := by
  revert d
  decide

end Uuid

end OData
