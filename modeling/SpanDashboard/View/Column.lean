import SpanDashboard.LatencyBucket
import SpanDashboard.View.Basic

/-!
# Columns

The values of a record that a view can show.
-/

set_option autoImplicit false

namespace SpanDashboard

/-- A value of a record that a view can show: a `Column`. -/
inductive Column where
  | name | errorCount | runningCount | latencyCounts | spanId | parentId | traceId | start
  | duration | status | description | attributes | events
  deriving DecidableEq, Repr

/-- What the values of a column are: a `ColumnKind`. -/
inductive CellKind where
  | text | instant | count | latencyCounts | attributes | events
  deriving DecidableEq, Repr

namespace Column

/-- All columns. -/
def all : List Column :=
  [name, errorCount, runningCount, latencyCounts, spanId, parentId, traceId, start, duration,
    status, description, attributes, events]

/-- The identifier of a column in headers and in the attributes of cells. -/
def id : Column → String
  | name => "name"
  | errorCount => "error"
  | runningCount => "running"
  | latencyCounts => "latency"
  | spanId => "spanid"
  | parentId => "parentid"
  | traceId => "traceid"
  | start => "start"
  | duration => "duration"
  | status => "status"
  | description => "description"
  | attributes => "attributes"
  | events => "events"

/-- Reads the identifier of a column. -/
def ofId? (s : String) : Option Column :=
  all.find? fun c => c.id = s

/-- What the values of a column are. -/
def kind : Column → CellKind
  | name | spanId | parentId | traceId | duration | status | description => .text
  | start => .instant
  | errorCount | runningCount => .count
  | latencyCounts => .latencyCounts
  | attributes => .attributes
  | events => .events

/-- The detail view that a click on a cell of the column opens: `drilldown_view`. -/
def detailView? : Column → Option View
  | errorCount => some .error
  | runningCount => some .running
  | latencyCounts => some .latency
  | _ => none

/-- How many cells a value of the column takes up: `cell_span`. -/
def cellCount (c : Column) : Nat :=
  match c.kind with
  | .latencyCounts => LatencyBucket.count
  | _ => 1

theorem mem_all (c : Column) : c ∈ all := by
  cases c <;> decide

theorem ofId?_id (c : Column) : ofId? c.id = some c := by
  cases c <;> decide

end Column

end SpanDashboard
