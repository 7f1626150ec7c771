/-!
# Latency buckets

The nine ranges of durations, in nanoseconds, by which completed spans are counted. A bucket starts
at its lower bound and ends before the lower bound of the next one; the last has no end.
`contains` tests a duration against both bounds, `ofDuration` finds the bucket by its lower bound
alone.
-/

set_option autoImplicit false

namespace SpanDashboard

/-- A range of durations, a `LatencyBucket`, named for its lower bound. -/
inductive LatencyBucket where
  | from0s | from10us | from100us | from1ms | from10ms | from100ms | from1s | from10s | from100s
  deriving DecidableEq, Repr

namespace LatencyBucket

/-- All buckets in increasing order. -/
def all : List LatencyBucket :=
  [from0s, from10us, from100us, from1ms, from10ms, from100ms, from1s, from10s, from100s]

/-- `LATENCY_BUCKET_COUNT`: how many buckets there are. -/
abbrev count : Nat :=
  9

/-- The position of a bucket among all buckets: `index`. -/
def index : LatencyBucket → Fin count
  | from0s => 0
  | from10us => 1
  | from100us => 2
  | from1ms => 3
  | from10ms => 4
  | from100ms => 5
  | from1s => 6
  | from10s => 7
  | from100s => 8

/-- The bucket at a position: `from_index`. -/
def ofIndex? (i : Nat) : Option LatencyBucket :=
  all[i]?

/-- The bucket above this one. -/
def next? (b : LatencyBucket) : Option LatencyBucket :=
  ofIndex? (b.index + 1)

/-- The shortest duration in the bucket: `lower_bound_nanos`. -/
def lowerBound : LatencyBucket → Int
  | from0s => 0
  | from10us => 10000
  | from100us => 100000
  | from1ms => 1000000
  | from10ms => 10000000
  | from100ms => 100000000
  | from1s => 1000000000
  | from10s => 10000000000
  | from100s => 100000000000

/-- The shortest duration above the bucket: `upper_bound_nanos`. -/
def upperBound? (b : LatencyBucket) : Option Int :=
  b.next?.map lowerBound

/-- The label that headers and subheadings show: `label`. -/
def label : LatencyBucket → String
  | from0s => ">0s"
  | from10us => ">10µs"
  | from100us => ">100µs"
  | from1ms => ">1ms"
  | from10ms => ">10ms"
  | from100ms => ">100ms"
  | from1s => ">1s"
  | from10s => ">10s"
  | from100s => ">100s"

/-- Whether a duration is in the bucket: `contains`. -/
def contains (b : LatencyBucket) (duration : Int) : Bool :=
  b.lowerBound ≤ duration && b.upperBound?.all fun upper => duration < upper

/-- `for_duration`: the highest bucket that starts at or before a duration; the first one for
negative durations. -/
def ofDuration (duration : Int) : LatencyBucket :=
  (all.reverse.find? fun b => b.lowerBound ≤ duration).getD from0s

theorem mem_all (b : LatencyBucket) : b ∈ all := by
  cases b <;> decide

theorem ofIndex?_index (b : LatencyBucket) : ofIndex? b.index = some b := by
  cases b <;> rfl

end LatencyBucket

end SpanDashboard
