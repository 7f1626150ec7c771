/-!
# Double-precision numbers

A finite binary floating-point number of double precision is a sign and a magnitude
`mantissa * 2 ^ scale / 2 ^ 1074` with a mantissa below `2 ^ 53`. Magnitudes are computed exactly:
`Magnitude.nearest` rounds a quotient of natural numbers to the nearest magnitude, a tie to the one
with the even mantissa, and products and quotients of magnitudes are rounded once.

`Double.ofDecimal?` reads `significand * 10 ^ exponent` the way a reader does that keeps to
double-precision steps: the significand is rounded, and then multiplied or divided by a rounded
power of ten.
-/

set_option autoImplicit false

namespace SpanDashboard

/-- The number `mantissa * 2 ^ scale / 2 ^ 1074`. -/
structure Magnitude where
  /-- The leading bits, at least `2 ^ 52` unless the scale is zero. -/
  mantissa : Nat
  /-- The power of two, counted from the smallest one that occurs. -/
  scale : Nat
  deriving DecidableEq, Repr

/-- A double-precision number that is neither infinite nor undefined. -/
structure Double where
  /-- Whether the number carries a minus sign; zero may carry one too. -/
  negative : Bool
  /-- The number without its sign. -/
  magnitude : Magnitude
  deriving DecidableEq, Repr

namespace Magnitude

/-- How many times smaller than one the smallest magnitude above zero is. -/
def unitsInOne : Nat :=
  Nat.pow 2 1074

/-- The magnitude in units of the smallest one above zero. -/
def units (x : Magnitude) : Nat :=
  x.mantissa * Nat.pow 2 x.scale

/-- The quotient rounded to the nearest whole number, a tie to the even one. -/
def roundedQuotient (num den : Nat) : Nat :=
  let quotient := num / den
  let twice := 2 * (num % den)
  if twice < den then quotient
  else if den < twice then quotient + 1
  else if quotient % 2 = 0 then quotient else quotient + 1

/-- The magnitude nearest to `num / den`, a tie going to the even mantissa. -/
def nearest (num den : Nat) : Magnitude :=
  let inUnits := num * unitsInOne
  let scale := (inUnits / den).log2 - 52
  let mantissa := roundedQuotient inUnits (den * Nat.pow 2 scale)
  if mantissa = Nat.pow 2 53 then ⟨Nat.pow 2 52, scale + 1⟩ else ⟨mantissa, scale⟩

/-- Whether the magnitude is within the range of double precision. -/
def isFinite (x : Magnitude) : Bool :=
  x.scale ≤ 2045

/-- The rounded product. -/
def mul (x y : Magnitude) : Magnitude :=
  nearest (x.units * y.units) (unitsInOne * unitsInOne)

/-- The rounded quotient of a magnitude by one above zero. -/
def div (x y : Magnitude) : Magnitude :=
  nearest x.units y.units

/-- The rounded power of ten. -/
def powerOfTen (n : Nat) : Magnitude :=
  nearest (Nat.pow 10 n) 1

/-- The largest exponent of ten that one step of scaling takes. -/
def longestStep : Nat :=
  308

/-- Divides by a power of ten, in several steps when the exponent is beyond the longest one. -/
def scaleDown (x : Magnitude) (exponent : Nat) : Magnitude :=
  if exponent ≤ longestStep then x.div (powerOfTen exponent)
  else if x.mantissa = 0 then x
  else scaleDown (x.div (powerOfTen longestStep)) (exponent - longestStep)
termination_by exponent
decreasing_by simp only [longestStep] at *; omega

/-- Multiplies by a power of ten, if the product is finite. -/
def scaleUp? (x : Magnitude) (exponent : Nat) : Option Magnitude :=
  if x.mantissa = 0 then some x
  else if exponent ≤ longestStep then
    let product := x.mul (powerOfTen exponent)
    if product.isFinite then some product else none
  else none

end Magnitude

/-- Reads `significand * 10 ^ exponent` with the given sign; there is no number if the result
would be infinite. -/
def Double.ofDecimal? (negative : Bool) (significand : Nat) (exponent : Int) : Option Double :=
  let start := Magnitude.nearest significand 1
  match exponent with
  | .ofNat n => (start.scaleUp? n).map (⟨negative, ·⟩)
  | .negSucc n => some ⟨negative, start.scaleDown (n + 1)⟩

end SpanDashboard
