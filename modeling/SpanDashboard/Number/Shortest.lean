import SpanDashboard.Number.Double

/-!
# The shortest decimal of a magnitude

The decimal with the fewest digits among those that lie nearer to a magnitude than to any other
one, and of those with equally few digits the nearest; a tie goes to the even last digit. The grids
of the powers of ten are tried from the coarsest down: if a grid has a point in the interval that
rounds to the magnitude, then one of the magnitude's two neighbours on that grid lies in it.
-/

set_option autoImplicit false

namespace SpanDashboard

/-- The decimal number `digits * 10 ^ exponent`. -/
structure Decimal where
  /-- The number formed by all digits. -/
  digits : Nat
  /-- The power of ten of the last digit. -/
  exponent : Int
  deriving DecidableEq, Repr

namespace Magnitude

/-- The points of the finest grid are `1 / 10 ^ finestGrid` apart, closer than any two
magnitudes. -/
def finestGrid : Nat :=
  324

/-- The interval of numbers that round to a magnitude, in quarters of the smallest unit: its ends
and whether they belong to it. -/
structure Interval where
  low : Nat
  high : Nat
  closed : Bool
  deriving DecidableEq, Repr

/-- The numbers that are nearer to the magnitude than to its neighbours. Below a power of two the
neighbour is half as far away; a tie goes to the even mantissa. -/
def interval (x : Magnitude) : Interval :=
  let below := if x.mantissa = Nat.pow 2 52 ∧ 0 < x.scale then 1 else 2
  { low := (4 * x.mantissa - below) * Nat.pow 2 x.scale
    high := (4 * x.mantissa + 2) * Nat.pow 2 x.scale
    closed := x.mantissa % 2 = 0 }

/-- Whether a number lies between the ends. -/
def Interval.contains (i : Interval) (n : Nat) : Bool :=
  if i.closed then i.low ≤ n && n ≤ i.high else i.low < n && n < i.high

/-- The better of the magnitude's two neighbours on one grid, if one of them is in the interval.
All numbers are brought to the same denominator. -/
def onGrid? (x : Magnitude) (step : Nat) : Option Decimal :=
  let scaleUp := Nat.pow 10 finestGrid
  let i : Interval :=
    { x.interval with low := x.interval.low * scaleUp, high := x.interval.high * scaleUp }
  let target := 4 * x.units * scaleUp
  let width := 4 * unitsInOne * Nat.pow 10 step
  let digits := target / width
  let rest := target % width
  let exponent : Int := (step : Int) - finestGrid
  let down : Decimal := ⟨digits, exponent⟩
  let up : Decimal := ⟨digits + 1, exponent⟩
  match i.contains (digits * width), i.contains ((digits + 1) * width) with
  | true, true =>
    if 2 * rest < width || (2 * rest == width && digits % 2 == 0) then some down else some up
  | true, false => some down
  | false, true => some up
  | false, false => none

/-- Tries the grids from the given one down to the finest. -/
def shortestFrom (x : Magnitude) : Nat → Decimal
  | 0 => (x.onGrid? 0).getD ⟨0, 0⟩
  | step + 1 => (x.onGrid? (step + 1)).getD (shortestFrom x step)

/-- The number of digits of the magnitude on the finest grid. No grid that is coarser than this has
a point close to the magnitude. -/
def coarsestGrid (x : Magnitude) : Nat :=
  (Nat.toDigits 10 (x.units * Nat.pow 10 finestGrid / unitsInOne)).length

/-- The shortest decimal that rounds to the magnitude; zero has the digit zero. -/
def shortest (x : Magnitude) : Decimal :=
  if x.mantissa = 0 then ⟨0, 0⟩ else x.shortestFrom x.coarsestGrid

end Magnitude

end SpanDashboard
