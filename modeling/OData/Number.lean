import OData.Text.Digits

/-!
# Decimal Numbers

A number is an integer and a scale: the integer times ten to the power of
minus the scale. Both are exact and unbounded, so `1.0` and `1` are different
pairs that denote the same number.

The text keeps the digits of the integer and places the point by the scale.
Nothing is trimmed: `1.0` stays `1.0`. Three layouts share the work, and which
one applies is fixed by two thresholds on the number of filling zeros:

* up to five zeros between the point and the first digit, and up to fifteen
  zeros after the last digit, are written out;
* beyond five, the number is written with its first digit before the point and
  a negative exponent after `E`;
* beyond fifteen, the digits are followed by `e+` and the number of zeros.

Zero is `0` whatever its scale.

Equality compares the denoted numbers. It works on the pair with the trailing
zeros of the integer moved into the scale, so it never builds a power of ten of
the size of the scale.

## Main definitions

* `Number`: An integer and a scale.
* `Number.ofText?`: The pair for an integer text and a scale.
* `Number.text`: The literal.
* `Number.reduced`: The pair without trailing zeros.
* `Number.same`: Equality of the denoted numbers.

## Theorems

* `Number.same_refl`: Equality is reflexive.
-/

namespace OData

/-- The number `int * 10 ^ (-scale)`. -/
structure Number where
  /-- The digits of the number, with their sign. -/
  int : Int
  /-- How many of the digits stand after the point. -/
  scale : Int
deriving DecidableEq

namespace Number

/-- An integer, at scale zero. -/
def ofInt (n : Int) : Number :=
  ⟨n, 0⟩

/-- The number behind a run of digits, in which underscores may stand anywhere
    but in front. -/
def naturalOfText? : List Char → Option Nat
  | [] => none
  | c :: cs =>
    if c.isDigit && cs.all (fun d => d.isDigit || d == '_') then
      some (Text.ofDigits (c :: cs.filter Char.isDigit))
    else none

/-- Drops one plus sign. A second one stays, so that it is refused as a
    digit. -/
def dropPlus : List Char → List Char
  | '+' :: '+' :: cs => '+' :: '+' :: cs
  | '+' :: cs => cs
  | cs => cs

/-- The integer behind a text: an optional sign and digits. -/
def integerOfText? : List Char → Option Int
  | '-' :: '+' :: _ => none
  | '-' :: cs => (naturalOfText? cs).map fun n => -(n : Int)
  | cs => (naturalOfText? (dropPlus cs)).map fun n => (n : Int)

/-- The number with the given digits and scale, if the digits are those of an
    integer. -/
def ofText? (digits : String) (scale : Int) : Option Number :=
  (integerOfText? digits.toList).map fun n => ⟨n, scale⟩

/-- The most zeros that are written out between the point and the first
    digit. -/
def maxLeadingZeros : Nat := 5

/-- The most zeros that are written out after the last digit. -/
def maxTrailingZeros : Nat := 15

/-- The first digit, a point before the others if there are any, and the
    exponent of the first digit. -/
def scientific (digits : List Char) (scale : Int) : List Char :=
  let exponent := (Text.signed (digits.length - 1 - scale)).toList
  match digits with
  | d :: e :: ds => d :: '.' :: e :: ds ++ 'E' :: exponent
  | ds => ds ++ 'E' :: exponent

/-- The digits with a point before the last `places` of them, and at least one
    digit before the point. -/
def pointed (digits : List Char) (places : Nat) : List Char :=
  let all := digits.leftpad (places + 1) '0'
  all.take (all.length - places) ++ '.' :: all.drop (all.length - places)

/-- The literal of a positive number, from its digits and scale. -/
def layout (digits : List Char) (scale : Int) : List Char :=
  if scale > digits.length + maxLeadingZeros then scientific digits scale
  else if -scale > maxTrailingZeros then
    digits ++ 'e' :: '+' :: Text.digits (-scale).toNat
  else if scale ≤ 0 then digits ++ List.replicate (-scale).toNat '0'
  else pointed digits scale.toNat

/-- The literal of a number. -/
def text (x : Number) : String :=
  if x.int = 0 then "0"
  else
    (if x.int < 0 then "-" else "") ++
      String.ofList (layout (Text.digits x.int.natAbs) x.scale)

/-- The natural number without its trailing zeros, and how many there were. -/
def stripZeros (n : Nat) : Nat × Nat :=
  if _h : n ≠ 0 ∧ n % 10 = 0 then
    let (m, k) := stripZeros (n / 10)
    (m, k + 1)
  else (n, 0)
termination_by n
decreasing_by omega

/-- The same number with no trailing zeros in the integer, and zero at scale
    zero. Two pairs denote one number exactly when their reduced forms are
    equal. -/
def reduced (x : Number) : Number :=
  if x.int = 0 then ⟨0, 0⟩
  else
    let (m, k) := stripZeros x.int.natAbs
    ⟨x.int.sign * m, x.scale - k⟩

/-- Whether two pairs denote the same number. -/
def same (x y : Number) : Bool :=
  x.reduced == y.reduced

@[simp]
theorem same_refl (x : Number) : same x x = true :=
  beq_self_eq_true x.reduced

end Number

end OData
