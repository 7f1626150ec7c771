import SpanDashboard.Json.Ordered
import SpanDashboard.LatencyBucket
import SpanDashboard.StatusCode

/-!
# Span records

What the backend serves: one aggregate for all spans of a name, or the details of one sampled span
with the events that happened in it. Times are nanoseconds since the start of 1970 in UTC.
-/

set_option autoImplicit false

namespace SpanDashboard

/-- Named values of a span or an event. They are a `Map`: the members are in the order of their
names, and so are those of all objects in the values. -/
@[ext]
structure Attributes where
  members : List (String × Json)
  sorted : (Json.object members).Sorted

namespace Attributes

/-- No values at all. -/
def empty : Attributes :=
  ⟨[], .object .nil (List.forall_mem_nil _)⟩

theorem eq_empty_iff {a : Attributes} : a = .empty ↔ a.members = [] :=
  Attributes.ext_iff

/-- The map with the given members. -/
def ofMembers (members : List (String × Json)) : Attributes :=
  ⟨Json.sortMembers (Json.canonicalMembers members), (Json.object members).sorted_canonical⟩

/-- The map as an object. -/
def object (a : Attributes) : Json.Ordered :=
  ⟨.object a.members, a.sorted⟩

end Attributes

/-- A `SpanAggregateRecord`: how often spans of one name ended in an error, are still running, or
completed within each latency bucket. -/
structure SpanAggregate where
  name : String
  errorCount : UInt64
  runningCount : UInt64
  latencyCounts : Vector UInt64 LatencyBucket.count

/-- Something that happened at one moment of a span: a `SpanEvent`. -/
structure SpanEvent where
  name : String
  timestamp : Int64
  attributes : Attributes

/-- One sampled span, a `SpanDetailRecord`. The duration is known of completed spans, the status of
failed ones. -/
structure SpanDetail where
  spanId : String
  parentId : String
  traceId : String
  start : Int64
  description : String
  duration : Option Int64
  status : Option StatusCode
  attributes : Attributes
  events : List SpanEvent

/-- The aggregate of no spans and no name. -/
def SpanAggregate.blank : SpanAggregate :=
  ⟨"", 0, 0, Vector.replicate LatencyBucket.count 0⟩

/-- The event about which nothing is said. -/
def SpanEvent.blank : SpanEvent :=
  ⟨"", 0, .empty⟩

/-- The span about which nothing is said. -/
def SpanDetail.blank : SpanDetail :=
  ⟨"", "", "", 0, "", none, none, .empty, []⟩

end SpanDashboard
