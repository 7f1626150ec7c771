import SpanDashboard.Json.Basic
import SpanDashboard.Number.Shortest
import SpanDashboard.Text.Numeral

/-!
# Numbers in JSON text

A number literal has a whole part without superfluous zeros, and possibly a fraction and an
exponent. A literal with neither stands for a whole number if that fits in 64 bits, with the one
exception `-0`; every other literal stands for a double, and one whose double would be infinite
stands for nothing.
-/

set_option autoImplicit false

namespace SpanDashboard.Json

/-- A number literal taken apart. -/
structure Literal where
  /-- Whether the literal starts with a minus sign. -/
  negative : Bool
  /-- The digits before the point. -/
  whole : List Char
  /-- The digits after the point, if there is a point. -/
  fraction : Option (List Char)
  /-- The power of ten, if one is given. -/
  exponent : Option Int
  deriving DecidableEq, Repr

namespace Literal

/-- Splits off the digits that a text begins with. -/
def digits (text : List Char) : List Char × List Char :=
  (text.takeWhile Char.isDigit, text.dropWhile Char.isDigit)

/-- Reads the whole part: one digit or more, a zero only alone. -/
def readWhole? (text : List Char) : Option (List Char × List Char) :=
  match digits text with
  | ([], _) => none
  | (['0'], rest) => some (['0'], rest)
  | ('0' :: _, _) => none
  | (whole, rest) => some (whole, rest)

/-- Reads the fraction, if the text goes on with a point. -/
def readFraction? : List Char → Option (Option (List Char) × List Char)
  | '.' :: text =>
    match digits text with
    | ([], _) => none
    | (fraction, rest) => some (some fraction, rest)
  | text => some (none, text)

/-- Reads what follows the letter of an exponent up to the end of the literal. -/
def readPower? (text : List Char) : Option Int :=
  match text with
  | '-' :: rest => (Numeral.read? rest).map fun n => -(n : Int)
  | '+' :: rest => (Numeral.read? rest).map fun n => (n : Int)
  | rest => (Numeral.read? rest).map fun n => (n : Int)

/-- Reads the exponent, if there is one, up to the end of the literal. -/
def readExponent? : List Char → Option (Option Int)
  | [] => some none
  | c :: rest => if c = 'e' ∨ c = 'E' then (readPower? rest).map some else none

/-- Takes a number literal apart. -/
def read? (text : List Char) : Option Literal := do
  let (negative, text) :=
    match text with
    | '-' :: rest => (true, rest)
    | rest => (false, rest)
  let (whole, text) ← readWhole? text
  let (fraction, text) ← readFraction? text
  let exponent ← readExponent? text
  some { negative, whole, fraction, exponent }

/-- One more than the largest significand that is read exactly. -/
def significandLimit : Nat :=
  UInt64.size

/-- Appends digits to a significand while it stays below the limit; gives the significand and how
many digits were appended. -/
def appendDigits (significand : Nat) : List Char → Nat × Nat
  | [] => (significand, 0)
  | c :: rest =>
    let next := 10 * significand + (c.toNat - '0'.toNat)
    if next < significandLimit then
      let (result, count) := appendDigits next rest
      (result, count + 1)
    else (significand, 0)

/-- The double that the literal stands for. Digits beyond the limit of the significand count only
by their position. -/
def double? (l : Literal) : Option Double :=
  let (significand, kept) := appendDigits 0 l.whole
  let (significand, added) := appendDigits significand (l.fraction.getD [])
  let exponent : Int := (l.whole.length - kept : Nat) - added + l.exponent.getD 0
  Double.ofDecimal? l.negative significand exponent

/-- Whether the literal has neither a fraction nor an exponent. -/
def isPlain (l : Literal) : Bool :=
  l.fraction.isNone && l.exponent.isNone

/-- The value that the literal stands for. -/
def value? (l : Literal) : Option Json :=
  let size := Numeral.value l.whole
  if l.isPlain && !l.negative && size < UInt64.size then some (.int size)
  else if l.isPlain && l.negative && 0 < size && size ≤ Nat.pow 2 63 then some (.int (-size))
  else l.double?.map .double

end Literal

/-- How the text of a double is laid out: the powers of ten of the first digit from which on, and
up to but without which, the digits are written around a point and without an exponent. -/
structure DoubleLayout where
  leastPositional : Int
  firstScientific : Int
  deriving DecidableEq, Repr

/-- Doubles are written without an exponent from `0.00001` up to but without `1e+16`. -/
def doubleLayout : DoubleLayout :=
  ⟨-5, 16⟩

/-- The digits around a point, with at least one digit on each side of it. -/
def positionalText (digits : List Char) (exponent : Int) : List Char :=
  match exponent with
  | .ofNat n => digits ++ List.replicate n '0' ++ ['.', '0']
  | .negSucc n =>
    let places := n + 1
    if places < digits.length then
      digits.take (digits.length - places) ++ '.' :: digits.drop (digits.length - places)
    else '0' :: '.' :: List.replicate (places - digits.length) '0' ++ digits

/-- The digits with the point after the first one, and the exponent with its sign. -/
def scientificText (digits : List Char) (power : Int) : List Char :=
  let significand :=
    match digits with
    | first :: next :: rest => first :: '.' :: next :: rest
    | short => short
  let sign := if power < 0 then '-' else '+'
  significand ++ 'e' :: sign :: Numeral.ofNat power.natAbs

/-- The text of a decimal number without a sign. -/
def decimalText (layout : DoubleLayout) (x : Decimal) : List Char :=
  let digits := Numeral.ofNat x.digits
  let power : Int := x.exponent + digits.length - 1
  if layout.leastPositional ≤ power && power < layout.firstScientific then
    positionalText digits x.exponent
  else scientificText digits power

/-- The text of a double: its shortest decimal, after a minus sign if it has one. -/
def doubleText (x : Double) : List Char :=
  let text := decimalText doubleLayout x.magnitude.shortest
  if x.negative then '-' :: text else text

end SpanDashboard.Json
