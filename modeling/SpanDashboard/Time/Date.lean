/-!
# Calendar dates

Dates of the Gregorian calendar, extended to all years: the date that `format` prints of an instant.
Days are counted from the first day of the year zero. A year is found by an estimate from the
average length of a year, which is off by one at most, and a month by walking along the lengths of
the months.
-/

set_option autoImplicit false

namespace SpanDashboard

/-- A day of the calendar; months and days are counted from one. -/
structure Date where
  year : Int
  month : Nat
  day : Nat
  deriving DecidableEq, Repr

namespace Date

/-- Whether a year has 366 days. -/
def isLeapYear (year : Int) : Bool :=
  year % 4 == 0 && (year % 100 != 0 || year % 400 == 0)

/-- How many days there are from the start of the year zero to the start of a year. -/
def daysBeforeYear (year : Int) : Int :=
  365 * year + (year + 3) / 4 - (year + 99) / 100 + (year + 399) / 400

/-- The year that a day is in. -/
def yearOfDay (day : Int) : Int :=
  let estimate := 400 * day / 146097
  if day < daysBeforeYear estimate then estimate - 1
  else if daysBeforeYear (estimate + 1) ≤ day then estimate + 1
  else estimate

/-- The lengths of the months of a year. -/
def monthLengths (year : Int) : List Nat :=
  [31, if isLeapYear year then 29 else 28, 31, 30, 31, 30, 31, 31, 30, 31, 30, 31]

/-- The month and the day of the month, for a day of the year counted from zero, where `month` is
the number of the first month in the list. -/
def monthAndDay (month : Nat) : List Nat → Nat → Nat × Nat
  | [], day => (month, day + 1)
  | length :: rest, day =>
    if day < length then (month, day + 1) else monthAndDay (month + 1) rest (day - length)

/-- The date of a day. -/
def ofDay (day : Int) : Date :=
  let year := yearOfDay day
  let place := monthAndDay 1 (monthLengths year) (day - daysBeforeYear year).toNat
  ⟨year, place.1, place.2⟩

-- Sums of natural numbers are built on the numeral zero, whichever other zeros are at hand.
attribute [local instance (2000)] Zero.ofOfNat0

/-- The day of a date. -/
def toDay (d : Date) : Int :=
  daysBeforeYear d.year + ((monthLengths d.year).take (d.month - 1)).sum + d.day - 1

/-- The first day of 1970. -/
def epochDay : Int :=
  daysBeforeYear 1970

/-- The estimate of a year is at most one too high. -/
theorem daysBeforeYear_estimate_sub_one_le (day : Int) :
    daysBeforeYear (400 * day / 146097 - 1) ≤ day := by
  simp only [daysBeforeYear]
  omega

/-- The estimate of a year is at most one too low. -/
theorem lt_daysBeforeYear_estimate_add_two (day : Int) :
    day < daysBeforeYear (400 * day / 146097 + 2) := by
  simp only [daysBeforeYear]
  omega

/-- A day is in the year that is found for it. -/
theorem daysBeforeYear_yearOfDay (day : Int) :
    daysBeforeYear (yearOfDay day) ≤ day ∧ day < daysBeforeYear (yearOfDay day + 1) := by
  have low := daysBeforeYear_estimate_sub_one_le day
  have high := lt_daysBeforeYear_estimate_add_two day
  unfold yearOfDay
  dsimp only
  split
  · exact ⟨low, by rwa [Int.sub_add_cancel]⟩
  · split
    · exact ⟨by assumption, by rwa [Int.add_assoc]⟩
    · exact ⟨by omega, by omega⟩

/-- The length of a year. -/
theorem daysBeforeYear_add_one (year : Int) :
    daysBeforeYear (year + 1) = daysBeforeYear year + if isLeapYear year then 366 else 365 := by
  simp only [daysBeforeYear, isLeapYear]
  by_cases h4 : year % 4 = 0 <;> by_cases h100 : year % 100 = 0 <;>
    by_cases h400 : year % 400 = 0 <;> simp [h4, h100, h400] <;> omega

end Date

end SpanDashboard
