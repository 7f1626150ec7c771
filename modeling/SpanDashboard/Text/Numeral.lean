/-!
# Decimal numerals

Whole numbers as decimal text: written without leading zeros or padded to a width, and read from a
text that has at least one character and only the digits `0` to `9`.
-/

set_option autoImplicit false

namespace SpanDashboard.Numeral

/-- The decimal digits of a number, without leading zeros. -/
def ofNat (n : Nat) : List Char :=
  Nat.toDigits 10 n

/-- The decimal digits of a whole number, after a minus sign if it is negative. -/
def ofInt : Int → List Char
  | .ofNat n => ofNat n
  | .negSucc n => '-' :: ofNat (n + 1)

/-- The decimal digits of a number, led by zeros up to the given width. -/
def padded (width n : Nat) : List Char :=
  List.replicate (width - (ofNat n).length) '0' ++ ofNat n

/-- The number that digits denote. -/
def value (digits : List Char) : Nat :=
  Nat.ofDigitChars 10 digits 0

/-- Reads a numeral: one digit or more and nothing else. -/
def read? (text : List Char) : Option Nat :=
  if !text.isEmpty && text.all Char.isDigit then some (value text) else none

/-- The text of a natural number. -/
def text (n : Nat) : String :=
  String.ofList (ofNat n)

/-- The text of a whole number. -/
def intText (n : Int) : String :=
  String.ofList (ofInt n)

theorem value_ofNat (n : Nat) : value (ofNat n) = n :=
  Nat.ofDigitChars_toDigits (by decide) (by decide)

theorem isDigit_of_mem_ofNat {n : Nat} {c : Char} (h : c ∈ ofNat n) : c.isDigit = true :=
  Nat.isDigit_of_mem_toDigits (by decide) (by decide) h

theorem ofNat_ne_nil (n : Nat) : ofNat n ≠ [] := by
  rw [ofNat, Nat.toDigits_eq_if (by decide)]
  split <;> simp

theorem read?_ofNat (n : Nat) : read? (ofNat n) = some n := by
  have nonempty : (ofNat n).isEmpty = false := by simp [ofNat_ne_nil]
  have digits : (ofNat n).all Char.isDigit = true :=
    List.all_eq_true.2 fun _ h => isDigit_of_mem_ofNat h
  simp [read?, nonempty, digits, value_ofNat]

end SpanDashboard.Numeral
