/-!
# Hexadecimal digits

Digits are written in either case and read in both.
-/

set_option autoImplicit false

namespace SpanDashboard.Hex

/-- The digit of a number below sixteen, with a small letter from ten on. -/
def lower (n : Nat) : Char :=
  n.digitChar

/-- The digit of a number below sixteen, with a capital letter from ten on. -/
def upper (n : Nat) : Char :=
  n.digitChar.toUpper

/-- The number that a digit of either case stands for. -/
def value? (c : Char) : Option Nat :=
  if '0' ≤ c ∧ c ≤ '9' then some (c.toNat - '0'.toNat)
  else if 'a' ≤ c ∧ c ≤ 'f' then some (c.toNat - 'a'.toNat + 10)
  else if 'A' ≤ c ∧ c ≤ 'F' then some (c.toNat - 'A'.toNat + 10)
  else none

theorem value?_lower {n : Nat} (h : n < 16) : value? (lower n) = some n := by
  revert n; decide

theorem value?_upper {n : Nat} (h : n < 16) : value? (upper n) = some n := by
  revert n; decide

end SpanDashboard.Hex
