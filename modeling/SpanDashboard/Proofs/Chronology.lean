import Mathlib.Algebra.Order.BigOperators.Group.List
import Mathlib.Data.List.Lex
import SpanDashboard.Proofs.Timestamps

/-!
# Dates and times in order

The days of dates follow one another as the dates do in the calendar (`IsValid.toDay_next`), so a
date that comes earlier is on an earlier day (`toDay_lt`), and what a timestamp of `format_nanos`
says is earlier exactly if its numbers come first (`milliseconds_lt`). All numbers of a timestamp
have a fixed width, hence the texts are ordered like the numbers in them (`partsText_lt`).
-/

set_option autoImplicit false

namespace SpanDashboard

/-! ## The calendar -/

namespace Date

/-- The day after a date: the next one of its month, or the first one of the next month. -/
def next (d : Date) : Date :=
  if d.day < (monthLengths d.year).getD (d.month - 1) 0 then ⟨d.year, d.month, d.day + 1⟩
  else if d.month < 12 then ⟨d.year, d.month + 1, 1⟩
  else ⟨d.year + 1, 1, 1⟩

/-- The days of the first months of a year are those of the months before, and of one more. -/
theorem sum_take_month (year : Int) {month : Nat} (low : 1 ≤ month) (high : month ≤ 12) :
    ((monthLengths year).take month).sum =
      ((monthLengths year).take (month - 1)).sum + (monthLengths year).getD (month - 1) 0 := by
  have in_year : month - 1 < (monthLengths year).length := by
    show month - 1 < 12
    omega
  rw [List.getD_eq_getElem _ _ in_year, ← List.sum_take_succ, Nat.sub_add_cancel low]

theorem sum_take_le (year : Int) {month later : Nat} (before : month ≤ later) :
    ((monthLengths year).take month).sum ≤ ((monthLengths year).take later).sum :=
  List.monotone_sum_take (monthLengths year) before

/-- A year has the days of its twelve months. -/
theorem daysBeforeYear_succ (year : Int) :
    daysBeforeYear (year + 1) =
      daysBeforeYear year + ((monthLengths year).take 12).sum := by
  have months : (monthLengths year).take 12 = monthLengths year := rfl
  rw [months, sum_monthLengths, daysBeforeYear_add_one]
  split <;> rfl

theorem monthLength_pos (year : Int) {i : Nat} (month : i < 12) :
    0 < (monthLengths year).getD i 0 := by
  have lengths : ∀ leap : Bool, ∀ i < 12,
      0 < [31, if leap then 29 else 28, 31, 30, 31, 30, 31, 31, 30, 31, 30, 31].getD i 0 := by
    decide
  exact lengths _ i month

theorem IsValid.next {d : Date} (valid : d.IsValid) : d.next.IsValid := by
  obtain ⟨low, high, pos, in_month⟩ := valid
  unfold Date.next
  split
  case isTrue inside => exact ⟨low, high, Nat.le_add_left 1 _, inside⟩
  case isFalse =>
    split
    case isTrue inside =>
      exact ⟨Nat.le_add_left 1 _, inside, Nat.le_refl 1, monthLength_pos d.year inside⟩
    case isFalse =>
      have january := monthLength_pos (d.year + 1) (show 0 < 12 by decide)
      exact ⟨Nat.le_refl 1, Nat.le_add_left 1 11, Nat.le_refl 1, january⟩

/-- The dates of the calendar are counted day by day. -/
theorem IsValid.toDay_next {d : Date} (valid : d.IsValid) : d.next.toDay = d.toDay + 1 := by
  obtain ⟨low, high, pos, in_month⟩ := valid
  have through := sum_take_month d.year low high
  unfold Date.next
  split
  case isTrue inside =>
    simp only [toDay]
    omega
  case isFalse last =>
    split
    case isTrue inside =>
      simp only [toDay, Nat.add_sub_cancel]
      omega
    case isFalse =>
      have december : d.month = 12 := by omega
      have year := daysBeforeYear_succ d.year
      rw [december] at through in_month last
      simp only [toDay, december, Nat.sub_self, List.take_zero, List.sum_nil]
      omega

/-- A date is in its year. -/
theorem IsValid.toDay_bounds {d : Date} (valid : d.IsValid) :
    daysBeforeYear d.year ≤ d.toDay ∧ d.toDay < daysBeforeYear (d.year + 1) := by
  obtain ⟨low, high, pos, in_month⟩ := valid
  have through := sum_take_month d.year low high
  have inside := sum_take_le d.year high
  have year := daysBeforeYear_succ d.year
  rw [toDay]
  constructor <;> omega

theorem daysBeforeYear_le {year later : Int} (before : year ≤ later) :
    daysBeforeYear year ≤ daysBeforeYear later := by
  simp only [daysBeforeYear]
  omega

/-- A date that comes first in the calendar is on an earlier day. -/
theorem toDay_lt {d e : Date} (valid : d.IsValid) (valid_later : e.IsValid)
    (earlier : d.year < e.year ∨
      d.year = e.year ∧ (d.month < e.month ∨ d.month = e.month ∧ d.day < e.day)) :
    d.toDay < e.toDay := by
  rcases earlier with year | ⟨year, month | ⟨month, day⟩⟩
  · have before := valid.toDay_bounds.2
    have since := valid_later.toDay_bounds.1
    have years : daysBeforeYear (d.year + 1) ≤ daysBeforeYear e.year := daysBeforeYear_le year
    omega
  · obtain ⟨low, high, -, in_month⟩ := valid
    obtain ⟨-, -, pos, -⟩ := valid_later
    have through := sum_take_month d.year low high
    have months := sum_take_le d.year (Nat.le_sub_one_of_lt month)
    rw [toDay, toDay, ← year]
    omega
  · rw [toDay, toDay, ← year, ← month]
    omega

end Date

/-! ## Numerals of a fixed width -/

namespace Numeral

/-- A padded numeral ends with its last digit. -/
theorem padded_succ {width : Nat} (pos : 0 < width) (n : Nat) :
    padded (width + 1) n = padded width (n / 10) ++ [(n % 10).digitChar] := by
  rcases Nat.lt_or_ge n 10 with small | large
  · obtain ⟨width, rfl⟩ := Nat.exists_eq_add_of_lt pos
    have digit : ofNat n = [n.digitChar] := Nat.toDigits_of_lt_base small
    have zero : ofNat (n / 10) = ['0'] := by
      rw [Nat.div_eq_of_lt small]
      rfl
    have zeros : 0 + width + 1 + 1 - 1 = (0 + width + 1 - 1) + 1 := by omega
    simp only [padded, digit, zero, List.length_singleton, Nat.mod_eq_of_lt small, zeros,
      List.replicate_succ']
  · have digits : ofNat n = ofNat (n / 10) ++ [(n % 10).digitChar] :=
      Nat.toDigits_of_base_le (by decide) large
    have zeros : width + 1 - ((ofNat (n / 10)).length + 1) = width - (ofNat (n / 10)).length := by
      omega
    rw [padded, padded, digits, List.length_append, List.length_singleton, zeros,
      List.append_assoc]

/-- Padded numerals are ordered like their numbers, whatever follows them. -/
theorem padded_lt {width n m : Nat} (pos : 0 < width) (small : m < 10 ^ width) (less : n < m)
    (rest other : List Char) : padded width n ++ rest < padded width m ++ other := by
  have digits : ∀ m < 10, ∀ n < m, n.digitChar < m.digitChar := by decide
  induction width, pos using Nat.le_induction generalizing n m rest other with
  | base =>
    have alone : ∀ n < 10, padded 1 n = [n.digitChar] := by decide
    rw [Nat.pow_one] at small
    rw [alone n (Nat.lt_trans less small), alone m small]
    exact List.cons_lt_cons_iff.2 (.inl (digits m small n less))
  | succ width pos ih =>
    rw [padded_succ pos, padded_succ pos, List.append_assoc, List.append_assoc]
    rcases Nat.lt_or_ge (n / 10) (m / 10) with first | later
    · exact ih (by rw [Nat.pow_succ] at small; omega) first _ _
    · have same : n / 10 = m / 10 := by omega
      rw [same]
      refine List.append_left_lt (List.cons_lt_cons_iff.2 (.inl ?_))
      exact digits _ (Nat.mod_lt m (by decide)) _ (by omega)

end Numeral

namespace Timestamp

/-- Texts with the same parts are ordered like the numbers in them, whatever follows. -/
theorem partsText_lt {parts : List Part} {ns ms : List Nat} (fit : Fit parts ns)
    (fit_later : Fit parts ms) (less : ns < ms) (rest other : List Char) :
    partsText parts ns ++ rest < partsText parts ms ++ other := by
  induction fit generalizing ms with
  | nil =>
    cases fit_later
    exact absurd less (List.lt_irrefl [])
  | @number width n parts ns pos small others ih =>
    cases fit_later with
    | @number _ m _ ms _ small_later others_later =>
      rw [partsText, partsText, List.append_assoc, List.append_assoc]
      rcases List.cons_lt_cons_iff.1 less with first | ⟨rfl, later⟩
      · exact Numeral.padded_lt pos small_later first _ _
      · exact List.append_left_lt (ih others_later later)
  | mark others ih =>
    cases fit_later with
    | mark others_later =>
      rw [partsText, partsText]
      exact List.cons_lt_cons_iff.2 (.inr ⟨rfl, ih others_later less⟩)

/-! ## Numbers and instants -/

/-- The numbers of the date and the time of day, in the order in which they are written. -/
def Fields.numbers (f : Fields) : List Nat :=
  [f.date.year.toNat, f.date.month, f.date.day, f.hour, f.minute, f.second, f.millisecond]

/-- What comes first by its numbers is earlier, where the clocks are the same: on an earlier day, or
on the same day at an earlier time. -/
theorem Fields.milliseconds_lt {f g : Fields} (valid : f.IsValid) (valid_later : g.IsValid)
    (positive : 0 ≤ f.date.year) (positive_later : 0 ≤ g.date.year)
    (same_zone : f.offsetMinutes = g.offsetMinutes) (first : f.numbers < g.numbers) :
    f.milliseconds < g.milliseconds := by
  obtain ⟨date, hour, minute, second, millisecond⟩ := valid
  obtain ⟨date_later, hour_later, minute_later, second_later, millisecond_later⟩ := valid_later
  simp only [numbers, List.cons_lt_cons_iff, List.lt_irrefl, and_false, or_false] at first
  have days : f.date.toDay < g.date.toDay ∨ f.date.toDay = g.date.toDay ∧ f.clock < g.clock := by
    rcases first with year | ⟨year, month | ⟨month, day | ⟨day, time⟩⟩⟩
    · exact .inl (Date.toDay_lt date date_later (.inl (by omega)))
    · exact .inl (Date.toDay_lt date date_later (.inr ⟨by omega, .inl month⟩))
    · exact .inl (Date.toDay_lt date date_later (.inr ⟨by omega, .inr ⟨month, day⟩⟩))
    · have same_year : f.date.year = g.date.year := by omega
      refine .inr ⟨?_, ?_⟩
      · rw [Date.toDay, Date.toDay, same_year, month, day]
      · simp only [clock]
        omega
  simp only [milliseconds, dayLength, clock, same_zone] at days ⊢
  omega

theorem offsetChars_eq (z : Zone) :
    z.offsetChars = (if z.offsetMinutes < 0 then '-' else '+') ::
      partsText offsetParts [z.offsetMinutes.natAbs / 60, z.offsetMinutes.natAbs % 60] := by
  simp [Zone.offsetChars, offsetParts, partsText]

theorem offsetMinutes_fields (z : Zone) (n : Int) : (fields z n).offsetMinutes = z.offsetMinutes :=
  rfl

/-- The text of an instant are its numbers in their parts, and the offset of the zone. -/
theorem chars_eq_numbers (z : Zone) (n : Int) :
    chars z n = partsText clockParts (fields z n).numbers ++ z.offsetChars := by
  rw [chars_eq, offsetChars_eq]
  rfl

theorem fit_numbers {z : Zone} (near : z.offsetMinutes.natAbs < 1440) (n : Int64) :
    Fit clockParts (fields z n.toInt).numbers := by
  obtain ⟨positive, short⟩ := year_fields near n.le_toInt n.toInt_lt
  exact fit_clockParts (isValid_fields z n.toInt) positive short

/-- A later instant does not have a text that comes first: its numbers are the same, or they come
later, since they would be those of an earlier millisecond otherwise. -/
theorem not_chars_lt {z : Zone} (near : z.offsetMinutes.natAbs < 1440) {n later : Int64}
    (before : n.toInt ≤ later.toInt) : ¬ chars z later.toInt < chars z n.toInt := by
  rw [chars_eq_numbers, chars_eq_numbers]
  rcases lt_trichotomy (fields z n.toInt).numbers (fields z later.toInt).numbers with
    less | same | greater
  · exact List.lt_asymm (partsText_lt (fit_numbers near n) (fit_numbers near later) less _ _)
  · rw [same]
    exact List.lt_irrefl _
  · have positive := (year_fields near n.le_toInt n.toInt_lt).1
    have positive_later := (year_fields near later.le_toInt later.toInt_lt).1
    have same_zone : (fields z later.toInt).offsetMinutes = (fields z n.toInt).offsetMinutes := by
      rw [offsetMinutes_fields, offsetMinutes_fields]
    have earlier := Fields.milliseconds_lt (isValid_fields z later.toInt)
      (isValid_fields z n.toInt) positive_later positive same_zone greater
    rw [milliseconds_fields, milliseconds_fields] at earlier
    omega

/-! ## The form of a timestamp -/

/-- A character with its digit left open. -/
def openDigit (c : Char) : Char :=
  if c.isDigit then 'd' else c

/-- The form of the text that has some numbers in its parts. -/
def partsForm : List Part → List Char
  | [] => []
  | .number width :: parts => List.replicate width 'd' ++ partsForm parts
  | .mark c :: parts => openDigit c :: partsForm parts

theorem map_openDigit_partsText {parts : List Part} {ns : List Nat} (fit : Fit parts ns) :
    (partsText parts ns).map openDigit = partsForm parts := by
  induction fit with
  | nil => rfl
  | @number width n parts ns pos small others ih =>
    have digits : (Numeral.padded width n).map openDigit = List.replicate width 'd' := by
      refine List.eq_replicate_iff.2 ⟨?_, fun d member => ?_⟩
      · rw [List.length_map, Numeral.length_padded pos small]
      · obtain ⟨c, digit, rfl⟩ := List.mem_map.1 member
        exact if_pos (Numeral.isDigit_of_mem_padded digit)
    rw [partsText, List.map_append, digits, ih, partsForm]
  | mark others ih => rw [partsText, List.map_cons, ih, partsForm]

/-- The form of a timestamp: the date, the time of day, and the offset after its sign. -/
def form (z : Zone) : String :=
  if z.offsetMinutes < 0 then "dddd-dd-dd dd:dd:dd.ddd -dd:dd"
  else "dddd-dd-dd dd:dd:dd.ddd +dd:dd"

theorem map_openDigit_chars {z : Zone} (near : z.offsetMinutes.natAbs < 1440) (n : Int64) :
    (chars z n.toInt).map openDigit = (form z).toList := by
  rw [chars_eq_numbers, List.map_append, map_openDigit_partsText (fit_numbers near n),
    offsetChars_eq, List.map_cons, map_openDigit_partsText (fit_offsetParts near), form]
  split <;> rfl

/-- **A timestamp denotes its instant.** It has thirty characters of a fixed form. What is read from
it are a date of the calendar, a time of day and the offset of the zone, and they come to the
millisecond that the instant is in, where the dates are counted day by day from the start of 1970. A
later instant never has a text that comes first. -/
theorem denotes_instant {z : Zone} (near : z.offsetMinutes.natAbs < 1440) (n : Int64) :
    ((text z n.toInt).toList.length = 30 ∧
      (text z n.toInt).toList.map openDigit = (form z).toList) ∧
    (∃ f, read? (text z n.toInt).toList = some f ∧ f.IsValid ∧
      f.offsetMinutes = z.offsetMinutes ∧ f.milliseconds = n.toInt / 1000000) ∧
    ((⟨1970, 1, 1⟩ : Date).toDay = Date.epochDay ∧
      ∀ d : Date, d.IsValid → d.next.IsValid ∧ d.next.toDay = d.toDay + 1) ∧
    ∀ later : Int64, n ≤ later → ¬ text z later.toInt < text z n.toInt := by
  have written := map_openDigit_chars near n
  have length := congrArg List.length written
  rw [List.length_map] at length
  have chars_eq (n : Int64) : (text z n.toInt).toList = chars z n.toInt := String.toList_ofList
  refine ⟨⟨?_, ?_⟩, ?_, ⟨?_, fun d valid => ⟨valid.next, valid.toDay_next⟩⟩, fun later before => ?_⟩
  · rw [chars_eq, length, form]
    split <;> rfl
  · rw [chars_eq, written]
  · refine ⟨fields z n.toInt, ?_, isValid_fields z n.toInt, rfl, milliseconds_fields z n.toInt⟩
    rw [chars_eq, read?_chars near n.le_toInt n.toInt_lt]
  · rfl
  · rw [String.lt_iff, chars_eq, chars_eq]
    exact not_chars_lt near (Int64.le_iff_toInt_le.1 before)

/-- The first instant of 64 bits, in a zone in which it is still the day before. -/
theorem denotes_first_instant :
    (Zone.mk (-90)).offsetMinutes.natAbs < 1440 ∧
    text ⟨-90⟩ Int64.minValue.toInt = "1677-09-20 22:42:43.145 -01:30" ∧
    (∃ f, read? (text ⟨-90⟩ Int64.minValue.toInt).toList = some f ∧ f.IsValid ∧
      f.offsetMinutes = -90 ∧ f.milliseconds = -9223372036855) ∧
    ¬ text ⟨-90⟩ (0 : Int64).toInt < text ⟨-90⟩ Int64.minValue.toInt := by
  have near : (Zone.mk (-90)).offsetMinutes.natAbs < 1440 := by decide
  obtain ⟨-, read, -, ordered⟩ := denotes_instant near Int64.minValue
  exact ⟨near, by decide +kernel, read, ordered 0 (by decide)⟩

end Timestamp

end SpanDashboard
