import SpanDashboard.Text.Numeral
import SpanDashboard.Time.Date

/-!
# Timestamps

Instants as text, `YYYY-MM-DD hh:mm:ss.mmm +hh:mm`, the `PATTERN` of `TimestampZone`: the date and
time of day in a zone, down to the millisecond that the instant is in, and the offset of the zone.
-/

set_option autoImplicit false

namespace SpanDashboard

/-- A zone with a fixed offset from UTC. `TimestampZone` is UTC or the zone of the viewer. -/
structure Zone where
  /-- How many minutes the clocks of the zone are ahead. -/
  offsetMinutes : Int
  deriving DecidableEq, Repr

namespace Zone

/-- The zone without an offset. -/
def utc : Zone :=
  ⟨0⟩

/-- The offset as sign, hours and minutes: `%:z`. -/
def offsetChars (z : Zone) : List Char :=
  let minutes := z.offsetMinutes.natAbs
  (if z.offsetMinutes < 0 then '-' else '+') ::
    Numeral.padded 2 (minutes / 60) ++ ':' :: Numeral.padded 2 (minutes % 60)

end Zone

namespace Timestamp

/-- The milliseconds of a day. -/
def dayLength : Int :=
  86400000

/-- The characters of a date. -/
def dateChars (d : Date) : List Char :=
  Numeral.padded 4 d.year.toNat ++ '-' :: Numeral.padded 2 d.month ++ '-' :: Numeral.padded 2 d.day

/-- The characters of a time of day, given in milliseconds since midnight. -/
def clockChars (milliseconds : Nat) : List Char :=
  let seconds := milliseconds / 1000
  Numeral.padded 2 (seconds / 3600) ++ ':' :: Numeral.padded 2 (seconds / 60 % 60) ++
    ':' :: Numeral.padded 2 (seconds % 60) ++ '.' :: Numeral.padded 3 (milliseconds % 1000)

/-- The milliseconds since the start of 1970 that the clocks of a zone show. -/
def shownMilliseconds (z : Zone) (nanoseconds : Int) : Int :=
  nanoseconds / 1000000 + z.offsetMinutes * 60000

/-- The characters of an instant, given in nanoseconds since the start of 1970 in UTC. -/
def chars (z : Zone) (nanoseconds : Int) : List Char :=
  let shown := shownMilliseconds z nanoseconds
  dateChars (Date.ofDay (Date.epochDay + shown / dayLength)) ++
    ' ' :: clockChars (shown % dayLength).toNat ++ ' ' :: z.offsetChars

/-- An instant as text: `format_nanos`. -/
def text (z : Zone) (nanoseconds : Int) : String :=
  String.ofList (chars z nanoseconds)

end Timestamp

end SpanDashboard
