import Mathlib.Data.Nat.Digits.Lemmas
import SpanDashboard.Proofs.Calendar
import SpanDashboard.Time.Timestamp

/-!
# Timestamps read back

A timestamp of `format_nanos` is a text of numerals of fixed widths with marks between them. Such a
text is read back number by number (`readParts?_partsText`). So the fields of an instant are read
from its text (`read?_chars`); they are those of a date and of a time of day, and with the offset
they come to the millisecond that the instant is in (`milliseconds_fields`).
-/

set_option autoImplicit false

namespace SpanDashboard

/-! ## Padded numerals -/

namespace Numeral

theorem isDigit_of_mem_padded {width n : Nat} {c : Char} (member : c ∈ padded width n) :
    c.isDigit = true := by
  rcases List.mem_append.1 member with zero | digit
  · rw [(List.mem_replicate.1 zero).2]
    rfl
  · exact isDigit_of_mem_ofNat digit

theorem length_padded {width n : Nat} (pos : 0 < width) (fits : n < 10 ^ width) :
    (padded width n).length = width := by
  have short : (ofNat n).length ≤ width := (Nat.length_toDigits_le_iff (by decide) pos).2 fits
  rw [padded, List.length_append, List.length_replicate]
  omega

/-- Leading zeros do not count. -/
theorem value_padded (width n : Nat) : value (padded width n) = n := by
  have zeros (count : Nat) : Nat.ofDigitChars 10 (List.replicate count '0') 0 = 0 := by
    induction count with
    | zero => rfl
    | succ count ih =>
      rw [List.replicate_succ, Nat.ofDigitChars_cons]
      exact ih
  rw [value, padded, Nat.ofDigitChars_append, zeros]
  exact value_ofNat n

theorem read?_padded (width n : Nat) : read? (padded width n) = some n := by
  have nonempty : (padded width n).isEmpty = false := by simp [padded, ofNat_ne_nil]
  have digits : (padded width n).all Char.isDigit = true :=
    List.all_eq_true.2 fun _ => isDigit_of_mem_padded
  simp [read?, nonempty, digits, value_padded]

end Numeral

namespace Timestamp

/-! ## Texts with fixed widths -/

/-- A part of a text: a numeral of a fixed width, or a mark. -/
inductive Part where
  | number (width : Nat)
  | mark (c : Char)

/-- The text that has some numbers in its parts. -/
def partsText : List Part → List Nat → List Char
  | .number width :: parts, n :: ns => Numeral.padded width n ++ partsText parts ns
  | .mark c :: parts, ns => c :: partsText parts ns
  | _, _ => []

/-- Reads the numbers in the parts of a text, and gives the rest of the text. -/
def readParts? : List Part → List Char → Option (List Nat × List Char)
  | [], text => some ([], text)
  | .number width :: parts, text => do
    let n ← if width ≤ text.length then Numeral.read? (text.take width) else none
    let (ns, rest) ← readParts? parts (text.drop width)
    some (n :: ns, rest)
  | .mark c :: parts, d :: text => if d = c then readParts? parts text else none
  | .mark _ :: _, [] => none

/-- Numbers that have their places in some parts, and are not too large for them. -/
inductive Fit : List Part → List Nat → Prop where
  | nil : Fit [] []
  | number {width n : Nat} {parts : List Part} {ns : List Nat} (pos : 0 < width)
      (small : n < 10 ^ width) (others : Fit parts ns) : Fit (.number width :: parts) (n :: ns)
  | mark {c : Char} {parts : List Part} {ns : List Nat} (others : Fit parts ns) :
      Fit (.mark c :: parts) ns

/-- Numbers that fit are read back, whatever follows. -/
theorem readParts?_partsText {parts : List Part} {ns : List Nat} (fit : Fit parts ns)
    (rest : List Char) : readParts? parts (partsText parts ns ++ rest) = some (ns, rest) := by
  induction fit with
  | nil => rfl
  | @number width n parts ns pos small others ih =>
    have length_eq := Numeral.length_padded pos small
    rw [partsText, List.append_assoc, readParts?, List.take_left' length_eq,
      List.drop_left' length_eq, if_pos (by rw [List.length_append]; omega),
      Numeral.read?_padded, ih]
    rfl
  | mark others ih =>
    rw [partsText, List.cons_append, readParts?, if_pos rfl, ih]

/-! ## Timestamps -/

/-- What a timestamp says. -/
structure Fields where
  date : Date
  hour : Nat
  minute : Nat
  second : Nat
  millisecond : Nat
  /-- How many minutes the clocks are ahead of UTC. -/
  offsetMinutes : Int
  deriving DecidableEq, Repr

namespace Fields

/-- Whether there are such a date and such a time of day. -/
def IsValid (f : Fields) : Prop :=
  f.date.IsValid ∧ f.hour < 24 ∧ f.minute < 60 ∧ f.second < 60 ∧ f.millisecond < 1000

instance (f : Fields) : Decidable f.IsValid :=
  inferInstanceAs (Decidable (_ ∧ _ ∧ _ ∧ _ ∧ _))

/-- The milliseconds since midnight. -/
def clock (f : Fields) : Nat :=
  ((f.hour * 60 + f.minute) * 60 + f.second) * 1000 + f.millisecond

/-- The milliseconds since the start of 1970 in UTC. -/
def milliseconds (f : Fields) : Int :=
  (f.date.toDay - Date.epochDay) * dayLength + f.clock - f.offsetMinutes * 60000

end Fields

/-- The parts of the date and the time of day. -/
def clockParts : List Part :=
  [.number 4, .mark '-', .number 2, .mark '-', .number 2, .mark ' ', .number 2, .mark ':',
    .number 2, .mark ':', .number 2, .mark '.', .number 3, .mark ' ']

/-- The parts of the offset after its sign. -/
def offsetParts : List Part :=
  [.number 2, .mark ':', .number 2]

/-- Reads the sign of an offset. -/
def sign? (c : Char) : Option Int :=
  if c = '+' then some 1 else if c = '-' then some (-1) else none

/-- Reads a timestamp. -/
def read? (text : List Char) : Option Fields :=
  match readParts? clockParts text with
  | some ([year, month, day, hour, minute, second, millisecond], mark :: rest) =>
    match readParts? offsetParts rest with
    | some ([hours, minutes], []) =>
      (sign? mark).map fun sign =>
        ⟨⟨year, month, day⟩, hour, minute, second, millisecond, sign * (hours * 60 + minutes : Nat)⟩
    | _ => none
  | _ => none

/-- The fields of an instant. -/
def fields (z : Zone) (nanoseconds : Int) : Fields :=
  let shown := shownMilliseconds z nanoseconds
  let clock := (shown % dayLength).toNat
  ⟨Date.ofDay (Date.epochDay + shown / dayLength), clock / 3600000, clock / 60000 % 60,
    clock / 1000 % 60, clock % 1000, z.offsetMinutes⟩

theorem isValid_fields (z : Zone) (nanoseconds : Int) : (fields z nanoseconds).IsValid := by
  have in_day : (shownMilliseconds z nanoseconds % dayLength).toNat < 86400000 := by
    rw [dayLength]
    omega
  refine ⟨Date.isValid_ofDay _, ?_, ?_, ?_, ?_⟩ <;> simp only [fields] <;> omega

/-- The fields come to the millisecond that the instant is in. -/
theorem milliseconds_fields (z : Zone) (nanoseconds : Int) :
    (fields z nanoseconds).milliseconds = nanoseconds / 1000000 := by
  have clock_eq : (((fields z nanoseconds).clock : Nat) : Int) =
      shownMilliseconds z nanoseconds % dayLength := by
    simp only [Fields.clock, fields, dayLength]
    omega
  rw [Fields.milliseconds, clock_eq]
  simp only [fields, Date.toDay_ofDay, shownMilliseconds, dayLength]
  omega

/-- An instant of 64 bits is in a year with four digits. -/
theorem year_fields {z : Zone} (near : z.offsetMinutes.natAbs < 1440) {nanoseconds : Int}
    (low : -2 ^ 63 ≤ nanoseconds) (high : nanoseconds < 2 ^ 63) :
    0 ≤ (fields z nanoseconds).date.year ∧ (fields z nanoseconds).date.year < 10000 := by
  apply Date.yearOfDay_bounds
  · simp only [shownMilliseconds, dayLength, Date.epochDay, Date.daysBeforeYear]
    omega
  · simp only [shownMilliseconds, dayLength, Date.epochDay, Date.daysBeforeYear]
    omega

/-- The text of an instant are its fields, written in their parts. -/
theorem chars_eq (z : Zone) (nanoseconds : Int) :
    let f := fields z nanoseconds
    chars z nanoseconds =
      partsText clockParts [f.date.year.toNat, f.date.month, f.date.day, f.hour, f.minute, f.second,
          f.millisecond] ++
        (if z.offsetMinutes < 0 then '-' else '+') ::
          partsText offsetParts [z.offsetMinutes.natAbs / 60, z.offsetMinutes.natAbs % 60] := by
  simp [chars, dateChars, clockChars, Zone.offsetChars, clockParts, offsetParts, partsText, fields,
    Nat.div_div_eq_div_mul]

theorem fit_clockParts {f : Fields} (valid : f.IsValid) (positive : 0 ≤ f.date.year)
    (short : f.date.year < 10000) :
    Fit clockParts [f.date.year.toNat, f.date.month, f.date.day, f.hour, f.minute, f.second,
      f.millisecond] := by
  obtain ⟨date, hour, minute, second, millisecond⟩ := valid
  have day := date.day_le
  obtain ⟨-, month, -⟩ := date
  refine .number (by decide) (by omega) (.mark ?_)
  refine .number (by decide) (by omega) (.mark ?_)
  refine .number (by decide) (by omega) (.mark ?_)
  refine .number (by decide) (by omega) (.mark ?_)
  refine .number (by decide) (by omega) (.mark ?_)
  refine .number (by decide) (by omega) (.mark ?_)
  exact .number (by decide) (by omega) (.mark .nil)

theorem fit_offsetParts {minutes : Nat} (near : minutes < 1440) :
    Fit offsetParts [minutes / 60, minutes % 60] := by
  refine .number (by decide) (by omega) (.mark ?_)
  exact .number (by decide) (by omega) .nil

/-- The fields of an instant of 64 bits are read back from its text. -/
theorem read?_chars {z : Zone} (near : z.offsetMinutes.natAbs < 1440) {nanoseconds : Int}
    (low : -2 ^ 63 ≤ nanoseconds) (high : nanoseconds < 2 ^ 63) :
    read? (chars z nanoseconds) = some (fields z nanoseconds) := by
  obtain ⟨positive, short⟩ := year_fields near low high
  have clock := readParts?_partsText
    (fit_clockParts (isValid_fields z nanoseconds) positive short)
  have offset := readParts?_partsText (fit_offsetParts near) []
  rw [List.append_nil] at offset
  have sign : sign? (if z.offsetMinutes < 0 then '-' else '+') =
      some (if z.offsetMinutes < 0 then -1 else 1) := by
    split <;> rfl
  have minutes : (if z.offsetMinutes < 0 then -1 else 1) *
      ((z.offsetMinutes.natAbs / 60 * 60 + z.offsetMinutes.natAbs % 60 : Nat) : Int) =
        z.offsetMinutes := by
    split <;> omega
  have year : ((fields z nanoseconds).date.year.toNat : Int) = (fields z nanoseconds).date.year :=
    Int.toNat_of_nonneg positive
  rw [chars_eq, read?, clock]
  simp only [offset, sign, Option.map_some, minutes, year]
  rfl

/-- The first and the last millisecond of 64 bits. -/
example :
    String.ofList (chars .utc (-2 ^ 63)) = "1677-09-21 00:12:43.145 +00:00" ∧
    String.ofList (chars ⟨-90⟩ (2 ^ 63 - 1)) = "2262-04-11 22:17:16.854 -01:30" := by
  decide +kernel

end Timestamp

end SpanDashboard
