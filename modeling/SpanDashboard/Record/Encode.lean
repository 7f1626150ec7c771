import SpanDashboard.Record.Basic

/-!
# Records as JSON

The derived `Serialize` of the records: each is an object with its fields in the order in which they
are declared. A span without duration or status has no such member (`skip_serializing_if`).
-/

set_option autoImplicit false

namespace SpanDashboard

/-- An aggregate as a JSON value. -/
def SpanAggregate.encode (r : SpanAggregate) : Json :=
  .object
    [("name", .string r.name),
      ("error", .int r.errorCount.toNat),
      ("running", .int r.runningCount.toNat),
      ("latency", .array (r.latencyCounts.toList.map fun n => .int n.toNat))]

/-- An event as a JSON value. -/
def SpanEvent.encode (e : SpanEvent) : Json :=
  .object
    [("name", .string e.name),
      ("timestamp", .int e.timestamp.toInt),
      ("attributes", .object e.attributes.members)]

/-- A sampled span as a JSON value. -/
def SpanDetail.encode (r : SpanDetail) : Json :=
  .object
    ([("spanid", .string r.spanId),
        ("parentid", .string r.parentId),
        ("traceid", .string r.traceId),
        ("start", .int r.start.toInt),
        ("description", .string r.description)] ++
      (r.duration.map fun n => ("duration", Json.int n.toInt)).toList ++
      (r.status.map fun code => ("status", Json.string code.name)).toList ++
      [("attributes", .object r.attributes.members),
        ("events", .array (r.events.map SpanEvent.encode))])

end SpanDashboard
