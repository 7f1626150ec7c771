import SpanDashboard.Record.Basic
import SpanDashboard.Record.Schema

/-!
# Records from JSON

The readers of single values, and the schemas of the three record types, their derived
`Deserialize`: `name` is what a field is renamed to, and `otherName?` is its `alias`. An aggregate
needs all of its fields; what a span or an event leaves out is blank, since both have a `default`.
-/

set_option autoImplicit false

namespace SpanDashboard

namespace Json

/-- A text. -/
def asText : Json → Except Problem String
  | .string s => .ok s
  | other => .error (.wrongKind other .text)

/-- A number of spans, which must fit in 64 bits without a sign. -/
def asCount : Json → Except Problem UInt64
  | .int n =>
    if 0 ≤ n ∧ n.toNat < UInt64.size then .ok (UInt64.ofNat n.toNat)
    else .error (.outOfRange n .count)
  | other => .error (.wrongKind other .count)

/-- A number of nanoseconds, which must fit in 64 bits with a sign. -/
def asNanoseconds : Json → Except Problem Int64
  | .int n =>
    if Int64.minValue.toInt ≤ n ∧ n ≤ Int64.maxValue.toInt then .ok (Int64.ofInt n)
    else .error (.outOfRange n .nanoseconds)
  | other => .error (.wrongKind other .nanoseconds)

/-- The name of a status code, as the `deserialize` of `StatusCode` reads it. -/
def asStatus (value : Json) : Except Problem StatusCode := do
  let name ← value.asText
  match StatusCode.ofName? name with
  | some code => .ok code
  | none => .error (.unknownStatus name)

/-- A value that may be left out by writing null. -/
def asOptional {α : Type} (read : Json → Except Problem α) : Json → Except Problem (Option α)
  | .null => .ok none
  | value => (read value).map some

/-- Named values. -/
def asAttributes : Json → Except Problem Attributes
  | .object members => .ok (.ofMembers members)
  | other => .error (.wrongKind other .attributes)

/-- A list of values that are read one by one, up to the first problem. -/
def asList {α : Type} (read : Json → Except Problem α) : Json → Except Problem (List α)
  | .array items => items.mapM read
  | other => .error (.wrongKind other .sequence)

/-- A count for each latency bucket. -/
def asLatencyCounts : Json → Except Problem (Vector UInt64 LatencyBucket.count)
  | .array items => do
    let counts ← (items.take LatencyBucket.count).mapM asCount
    if h : counts.toArray.size = LatencyBucket.count then
      if items.length = LatencyBucket.count then .ok ⟨counts.toArray, h⟩
      else .error (.extraItems items.length)
    else .error (.fewCounts items.length)
  | other => .error (.wrongKind other .latencyCounts)

end Json

namespace SpanAggregate

/-- The fields of an aggregate. -/
inductive Field where
  | name | errorCount | runningCount | latencyCounts
  deriving DecidableEq, Repr

/-- How aggregates are read. -/
def schema : Schema SpanAggregate Field where
  label := "SpanAggregateRecord"
  fields := [.name, .errorCount, .runningCount, .latencyCounts]
  name
    | .name => "name"
    | .errorCount => "error"
    | .runningCount => "running"
    | .latencyCounts => "latency"
  otherName?
    | .name => none
    | .errorCount => some "errorCount"
    | .runningCount => some "runningCount"
    | .latencyCounts => some "latencyCounts"
  required := true
  blank := blank
  store
    | .name, value, r => value.asText.map fun s => { r with name := s }
    | .errorCount, value, r => value.asCount.map fun n => { r with errorCount := n }
    | .runningCount, value, r => value.asCount.map fun n => { r with runningCount := n }
    | .latencyCounts, value, r => value.asLatencyCounts.map fun ns => { r with latencyCounts := ns }

/-- Reads an aggregate. -/
def decode (value : Json) : Except Problem SpanAggregate :=
  schema.decode value

end SpanAggregate

namespace SpanEvent

/-- The fields of an event. -/
inductive Field where
  | name | timestamp | attributes
  deriving DecidableEq, Repr

/-- How events are read. -/
def schema : Schema SpanEvent Field where
  label := "SpanEvent"
  fields := [.name, .timestamp, .attributes]
  name
    | .name => "name"
    | .timestamp => "timestamp"
    | .attributes => "attributes"
  otherName? _ := none
  required := false
  blank := blank
  store
    | .name, value, e => value.asText.map fun s => { e with name := s }
    | .timestamp, value, e => value.asNanoseconds.map fun n => { e with timestamp := n }
    | .attributes, value, e => value.asAttributes.map fun a => { e with attributes := a }

/-- Reads an event. -/
def decode (value : Json) : Except Problem SpanEvent :=
  schema.decode value

end SpanEvent

namespace SpanDetail

/-- The fields of a sampled span. -/
inductive Field where
  | spanId | parentId | traceId | start | description | duration | status | attributes | events
  deriving DecidableEq, Repr

/-- How sampled spans are read. -/
def schema : Schema SpanDetail Field where
  label := "SpanDetailRecord"
  fields :=
    [.spanId, .parentId, .traceId, .start, .description, .duration, .status, .attributes, .events]
  name
    | .spanId => "spanid"
    | .parentId => "parentid"
    | .traceId => "traceid"
    | .start => "start"
    | .description => "description"
    | .duration => "duration"
    | .status => "status"
    | .attributes => "attributes"
    | .events => "events"
  otherName?
    | .spanId => some "spanId"
    | .parentId => some "parentId"
    | .traceId => some "traceId"
    | .start => some "startTimestamp"
    | .duration => some "durationNanos"
    | .status => some "statusCode"
    | .description | .attributes | .events => none
  required := false
  blank := blank
  store
    | .spanId, value, r => value.asText.map fun s => { r with spanId := s }
    | .parentId, value, r => value.asText.map fun s => { r with parentId := s }
    | .traceId, value, r => value.asText.map fun s => { r with traceId := s }
    | .start, value, r => value.asNanoseconds.map fun n => { r with start := n }
    | .description, value, r => value.asText.map fun s => { r with description := s }
    | .duration, value, r =>
      (value.asOptional Json.asNanoseconds).map fun n => { r with duration := n }
    | .status, value, r =>
      (value.asOptional Json.asStatus).map fun code => { r with status := code }
    | .attributes, value, r => value.asAttributes.map fun a => { r with attributes := a }
    | .events, value, r => (value.asList SpanEvent.decode).map fun es => { r with events := es }

/-- Reads a sampled span. -/
def decode (value : Json) : Except Problem SpanDetail :=
  schema.decode value

end SpanDetail

end SpanDashboard
