/-!
# Binary Floating Point

Numbers of 53 binary digits and an exponent, the common format of 64 bits. Only
the size of a number is kept here. Its sign is added by whoever needs one.

All arithmetic is exact arithmetic on natural numbers followed by one rounding
to the nearest number of the format, to an even mantissa on a tie. Below the
smallest normal number the exponent stays at its least value and digits are
lost. Beyond the largest number there is no result.

## Main definitions

* `Binary64`: A mantissa and an exponent of two.
* `Binary64.roundHalfEven`: A quotient rounded to a natural number.
* `Binary64.floorLog2`: The place of the leading binary digit of a quotient.
* `Binary64.nearest?`: The number nearest to a quotient.
* `Binary64.times?`, `Binary64.over?`: Multiplication and division.
* `Binary64.ofDecimal?`: A significand scaled by powers of ten.
-/

namespace OData

/-- The number `mantissa * 2 ^ exponent`. -/
structure Binary64 where
  /-- The binary digits. -/
  mantissa : Nat
  /-- The place of the last of them. -/
  exponent : Int
deriving DecidableEq

namespace Binary64

/-- How many binary digits a mantissa has at most. -/
def precision : Nat := 53

/-- The least exponent. -/
def minExponent : Int := -1074

/-- The greatest exponent. -/
def maxExponent : Int := 971

/-- Zero, as far down as it goes. -/
def zero : Binary64 := ⟨0, minExponent⟩

/-- The quotient rounded to the nearest natural number, to the even one on a
    tie. -/
def roundHalfEven (num den : Nat) : Nat :=
  let q := num / den
  let r := num % den
  if 2 * r < den then q
  else if den < 2 * r then q + 1
  else q + q % 2

/-- A quotient divided by a power of two, as a quotient again. -/
def shifted (num den : Nat) (exponent : Int) : Nat × Nat :=
  if 0 ≤ exponent then (num, den * Nat.pow 2 exponent.toNat)
  else (num * Nat.pow 2 (-exponent).toNat, den)

/-- The exponent of the greatest power of two that a positive quotient
    reaches. -/
def floorLog2 (num den : Nat) : Int :=
  let guess : Int := num.log2 - den.log2
  let (n, d) := shifted num den guess
  if d ≤ n then guess else guess - 1

/-- The number nearest to a quotient, unless the quotient is too large. -/
def nearest? (num den : Nat) : Option Binary64 :=
  if num = 0 then some zero
  else
    let exponent := max (floorLog2 num den - (precision - 1)) minExponent
    let (n, d) := shifted num den exponent
    let mantissa := roundHalfEven n d
    -- Rounding up can reach the next power of two.
    let x : Binary64 :=
      if mantissa = Nat.pow 2 precision then ⟨Nat.pow 2 (precision - 1), exponent + 1⟩
      else ⟨mantissa, exponent⟩
    if maxExponent < x.exponent then none else some x

/-- The number as a quotient. -/
def quotient (x : Binary64) : Nat × Nat :=
  shifted x.mantissa 1 (-x.exponent)

/-- The product, unless it is too large. -/
def times? (x y : Binary64) : Option Binary64 :=
  nearest? (x.quotient.1 * y.quotient.1) (x.quotient.2 * y.quotient.2)

/-- The first number divided by the second, which is not zero. -/
def over? (x y : Binary64) : Option Binary64 :=
  nearest? (x.quotient.1 * y.quotient.2) (x.quotient.2 * y.quotient.1)

/-- The greatest power of ten that scaling uses at once. -/
def maxPowerOfTen : Nat := 308

/-- The number divided by a power of ten, which is taken apart if it is out of
    range. -/
def overPowerOfTen? (x : Binary64) (k : Nat) : Option Binary64 :=
  if _h : k ≤ maxPowerOfTen then do
    x.over? (← nearest? (Nat.pow 10 k) 1)
  else if x.mantissa = 0 then some x
  else do
    let y ← x.over? (← nearest? (Nat.pow 10 maxPowerOfTen) 1)
    y.overPowerOfTen? (k - maxPowerOfTen)
termination_by k
decreasing_by
  simp only [maxPowerOfTen] at *
  omega

/-- The number times a power of ten, unless that is too large. -/
def timesPowerOfTen? (x : Binary64) (k : Nat) : Option Binary64 :=
  if k ≤ maxPowerOfTen then do
    x.times? (← nearest? (Nat.pow 10 k) 1)
  else if x.mantissa = 0 then some x
  else none

/-- A significand times a power of ten, unless that is too large. The
    significand, the power and the result are each rounded. -/
def ofDecimal? (significand : Nat) (exponent : Int) : Option Binary64 := do
  let x ← nearest? significand 1
  if 0 ≤ exponent then x.timesPowerOfTen? exponent.toNat
  else x.overPowerOfTen? (-exponent).toNat

end Binary64

end OData
