import OData.Binary64.Basic
import OData.Text.Digits

/-!
# Shortest Decimals

The decimal with the fewest digits that reads back as a given binary number.

A decimal reads back as a number when it lies in the number's interval: the
reals that are nearer to it than to any other number of the format. The ends of
the interval belong to it exactly when the mantissa is even. Below a power of
two the numbers lie twice as dense, so there the lower half of the interval is
only half as wide.

For one digit, then two and so on, the value's two neighbours on the decimal
grid of that many digits are tried. The first grid with a neighbour in the
interval wins. If both are, the nearer one is taken, and the even one on a tie.
No grid of more than seventeen digits is tried.

Everything is compared exactly, as natural numbers over a common unit.

## Main definitions

* `Binary64.Interval`: A value and its interval over a common unit.
* `Binary64.floorLog10`: The place of the leading decimal digit of a quotient.
* `Binary64.onGrid?`: The better neighbour on one grid, if it reads back.
* `Binary64.shortest`: The shortest decimal.
-/

namespace OData

namespace Binary64

/-- A value and the interval of reals that round to it, in steps of a unit that
    is a quotient. -/
structure Interval where
  /-- The lower end. -/
  low : Nat
  /-- The value. -/
  value : Nat
  /-- The upper end. -/
  high : Nat
  /-- Whether the ends belong to the interval. -/
  closed : Bool

/-- Whether the interval contains a multiple of the unit. -/
def Interval.contains (i : Interval) (n : Nat) : Bool :=
  if i.closed then i.low ≤ n && n ≤ i.high else i.low < n && n < i.high

/-- The interval in smaller steps. -/
def Interval.scale (i : Interval) (k : Nat) : Interval :=
  ⟨i.low * k, i.value * k, i.high * k, i.closed⟩

/-- Whether the numbers below lie twice as dense as those above. -/
def atPowerOfTwo (x : Binary64) : Bool :=
  x.mantissa == Nat.pow 2 (precision - 1) && minExponent < x.exponent

/-- The interval of a number in quarters of its last binary digit. -/
def interval (x : Binary64) : Interval where
  low := 4 * x.mantissa - (if x.atPowerOfTwo then 1 else 2)
  value := 4 * x.mantissa
  high := 4 * x.mantissa + 2
  closed := x.mantissa % 2 == 0

/-- The exponent of the greatest power of ten that a positive quotient
    reaches. -/
def floorLog10 (num den : Nat) : Int :=
  if den ≤ num then (Text.digits (num / den)).length - 1
  else -((Text.digits ((den - 1) / num)).length : Int)

/-- The better one of the two neighbours of a value among the multiples of a
    step, if it lies in the interval. -/
def onGrid? (i : Interval) (step : Nat) : Option Nat :=
  let k := i.value / step
  let below := i.contains (k * step)
  let above := i.contains ((k + 1) * step)
  let toBelow := i.value - k * step
  let toAbove := (k + 1) * step - i.value
  if below && (!above || toBelow < toAbove || (toBelow == toAbove && k % 2 == 0)) then some k
  else if above then some (k + 1)
  else none

/-- The shortest decimal among those whose last digit stands at a place from
    the given one down, that is, with at least so many digits. -/
def shortestFrom (x : Binary64) (leading : Int) : Nat → Nat → Nat × Int
  | _, 0 => (0, 0)
  | digits, more + 1 =>
    let place := leading - digits
    -- The unit of the interval is a quarter of the last binary digit.
    let unit := quotient ⟨1, x.exponent - 2⟩
    let grid : Nat × Nat :=
      if 0 ≤ place then (Nat.pow 10 place.toNat, 1) else (1, Nat.pow 10 (-place).toNat)
    match onGrid? (x.interval.scale (unit.1 * grid.2)) (grid.1 * unit.2) with
    | some k =>
      -- The neighbour above a nine may be ten.
      if k % 10 = 0 then (k / 10, place + 1) else (k, place)
    | none => shortestFrom x leading (digits + 1) more

/-- The shortest decimal that reads back as the number: its digits and the
    place of the last one. -/
def shortest (x : Binary64) : Nat × Int :=
  if x.mantissa = 0 then (0, 0)
  else shortestFrom x (floorLog10 x.quotient.1 x.quotient.2) 0 17

end Binary64

end OData
