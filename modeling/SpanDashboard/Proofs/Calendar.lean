import Mathlib.Algebra.Ring.Nat
import Mathlib.Data.List.GetD
import SpanDashboard.Time.Date

/-!
# Days and dates

The date of a day is a date of the calendar (`isValid_ofDay`), and the day of that date is the day
again (`toDay_ofDay`): the day is in its year, and walking along the lengths of the months takes off
the months before its own.
-/

set_option autoImplicit false

namespace SpanDashboard.Date

/-- Whether a date is in the calendar: the year has its month, and the month has its day. -/
def IsValid (d : Date) : Prop :=
  1 ≤ d.month ∧ d.month ≤ 12 ∧ 1 ≤ d.day ∧ d.day ≤ (monthLengths d.year).getD (d.month - 1) 0

instance (d : Date) : Decidable d.IsValid :=
  inferInstanceAs (Decidable (_ ∧ _ ∧ _ ∧ _))

/-- The days of all months. -/
theorem sum_monthLengths (year : Int) :
    (monthLengths year).sum = if isLeapYear year then 366 else 365 := by
  cases leap : isLeapYear year <;> simp [monthLengths, leap]

/-- A month is found together with the day of the month: the months before it have the days that are
missing. -/
theorem monthAndDay_eq (month : Nat) {lengths : List Nat} {day : Nat}
    (inside : day < lengths.sum) :
    ∃ i d, monthAndDay month lengths day = (month + i, d + 1) ∧ i < lengths.length ∧
      d < lengths.getD i 0 ∧ (lengths.take i).sum + d = day := by
  induction lengths generalizing month day with
  | nil => exact absurd inside (Nat.not_lt_zero day)
  | cons length rest ih =>
    rw [monthAndDay]
    split
    case isTrue here =>
      exact ⟨0, day, rfl, Nat.zero_lt_succ _, here, Nat.zero_add day⟩
    case isFalse later =>
      rw [List.sum_cons] at inside
      have inside_rest : day - length < rest.sum := by omega
      obtain ⟨i, d, found, in_list, in_month, before⟩ := ih (month + 1) inside_rest
      refine ⟨i + 1, d, ?_, Nat.succ_lt_succ in_list, in_month, ?_⟩
      · rw [found, Nat.add_assoc, Nat.add_comm 1 i]
      · rw [List.take_succ_cons, List.sum_cons]
        omega

/-- The date of a day: its month is one of the year, and what comes before it are whole months and
the days of its own month. -/
theorem exists_ofDay_eq (day : Int) :
    ∃ i d, ofDay day = ⟨yearOfDay day, i + 1, d + 1⟩ ∧ i < 12 ∧
      d < (monthLengths (yearOfDay day)).getD i 0 ∧
      daysBeforeYear (yearOfDay day) + ((monthLengths (yearOfDay day)).take i).sum + d = day := by
  obtain ⟨low, high⟩ := daysBeforeYear_yearOfDay day
  rw [daysBeforeYear_add_one] at high
  have inside : (day - daysBeforeYear (yearOfDay day)).toNat <
      (monthLengths (yearOfDay day)).sum := by
    rw [sum_monthLengths]
    split
    case isTrue leap =>
      rw [if_pos leap] at high
      omega
    case isFalse leap =>
      rw [if_neg leap] at high
      omega
  obtain ⟨i, d, found, in_year, in_month, before⟩ := monthAndDay_eq 1 inside
  refine ⟨i, d, ?_, in_year, in_month, ?_⟩
  · rw [ofDay, found, Nat.add_comm 1 i]
  · omega

theorem isValid_ofDay (day : Int) : (ofDay day).IsValid := by
  obtain ⟨i, d, date, in_year, in_month, -⟩ := exists_ofDay_eq day
  rw [date]
  exact ⟨Nat.le_add_left 1 i, in_year, Nat.le_add_left 1 d, in_month⟩

theorem IsValid.day_le {d : Date} (valid : d.IsValid) : d.day ≤ 31 := by
  have longest : ∀ length ∈ monthLengths d.year, length ≤ 31 := by
    cases leap : isLeapYear d.year <;> simp [monthLengths, leap]
  obtain ⟨low, high, -, in_month⟩ := valid
  have in_year : d.month - 1 < (monthLengths d.year).length := by
    show d.month - 1 < 12
    omega
  rw [List.getD_eq_getElem _ _ in_year] at in_month
  exact Nat.le_trans in_month (longest _ (List.getElem_mem in_year))

/-- The day of the date of a day. -/
theorem toDay_ofDay (day : Int) : (ofDay day).toDay = day := by
  obtain ⟨i, d, date, -, -, before⟩ := exists_ofDay_eq day
  rw [date]
  simp only [toDay, Nat.add_sub_cancel]
  omega

/-- The first day of March comes after the last one of February, the 29th in a leap year. -/
example :
    ofDay (toDay ⟨2000, 2, 29⟩ + 1) = ⟨2000, 3, 1⟩ ∧
      ofDay (toDay ⟨1900, 2, 28⟩ + 1) = ⟨1900, 3, 1⟩ := by
  decide

/-- A day of the first ten thousand years is in one of them. -/
theorem yearOfDay_bounds {day : Int} (low : 0 ≤ day) (high : day < daysBeforeYear 10000) :
    0 ≤ yearOfDay day ∧ yearOfDay day < 10000 := by
  obtain ⟨since, before_next⟩ := daysBeforeYear_yearOfDay day
  simp only [daysBeforeYear] at since before_next high
  omega

end SpanDashboard.Date
