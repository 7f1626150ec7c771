import SpanDashboard.Record.Basic
import SpanDashboard.Text.Numeral
import SpanDashboard.View.Column

/-!
# Rows

What a table shows of a `TableRecord`: the key that its cells lead on with (`row_key`), and a value
for each column (`cell`).
-/

set_option autoImplicit false

namespace SpanDashboard

/-- The value of a column: a `CellValue`. -/
inductive CellValue where
  | text (s : String)
  /-- Nanoseconds since the start of 1970 in UTC. -/
  | instant (nanoseconds : Int64)
  | count (n : UInt64)
  | latencyCounts (counts : Vector UInt64 LatencyBucket.count)
  | attributes (values : Attributes)
  | events (list : List SpanEvent)
  /-- The record has no such value. -/
  | missing

/-- A record as a table sees it: a `TableRecord`. -/
structure Row where
  /-- What the detail views of the row are restricted to. -/
  key : String
  cell : Column → CellValue

/-- An aggregate as a row, with its span name as the key. -/
def SpanAggregate.toRow (r : SpanAggregate) : Row where
  key := r.name
  cell
    | .name => .text r.name
    | .errorCount => .count r.errorCount
    | .runningCount => .count r.runningCount
    | .latencyCounts => .latencyCounts r.latencyCounts
    | _ => .missing

/-- A sampled span as a row, with its identifier as the key. -/
def SpanDetail.toRow (r : SpanDetail) : Row where
  key := r.spanId
  cell
    | .spanId => .text r.spanId
    | .parentId => .text r.parentId
    | .traceId => .text r.traceId
    | .start => .instant r.start
    | .duration =>
      match r.duration with
      | some n => .text (Numeral.intText n.toInt)
      | none => .missing
    | .status =>
      match r.status with
      | some code => .text code.name
      | none => .missing
    | .description => .text r.description
    | .attributes => .attributes r.attributes
    | .events => .events r.events
    | _ => .missing

end SpanDashboard
