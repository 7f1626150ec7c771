import SpanDashboard.Failure
import SpanDashboard.Html.Basic
import SpanDashboard.View.Endpoint

/-!
# Selections

The way from a clicked cell of the overview to a detail view: the attributes of the cell are read
to an `ActivatedCell`, the cell and the key of its row give the selection, a state of `Navigation`,
and the selection gives the view, the key of its endpoint and the subheading.
-/

set_option autoImplicit false

namespace SpanDashboard

/-- A cell of the overview that can be clicked: an `ActivatedCell`. -/
inductive OverviewCell where
  | errorCount
  | runningCount
  | latency (bucket : LatencyBucket)
  deriving DecidableEq, Repr

namespace OverviewCell

/-- One more than the largest position that is read: the range of `usize`, with 64 bits. -/
def indexLimit : Nat :=
  UInt64.size

/-- Reads a position, as `parse` reads a `usize`: digits, possibly after a plus sign, that stay
below the limit. -/
def readIndex? (text : String) : Option Nat :=
  let digits :=
    match text.toList with
    | '+' :: rest => rest
    | other => other
  (Numeral.read? digits).filter fun i => i < indexLimit

/-- Reads the bucket of a latency cell. -/
def readBucket (bucket : Option String) : Except Failure LatencyBucket :=
  match bucket with
  | none => .error (.setup .bucketMissing)
  | some text =>
    match readIndex? text with
    | none => .error (.setup (.badBucket text))
    | some i =>
      match LatencyBucket.ofIndex? i with
      | none => .error (.bucketOutOfRange i)
      | some b => .ok b

/-- Reads the attributes of a clicked cell: `from_attributes`. Only latency cells have a bucket. -/
def ofAttributes (column : String) (bucket : Option String) : Except Failure OverviewCell :=
  match Column.ofId? column with
  | none => .error (.setup (.unknownColumn column))
  | some .errorCount => .ok errorCount
  | some .runningCount => .ok runningCount
  | some .latencyCounts => (readBucket bucket).map latency
  | some other => .error (.setup (.notClickable other))

/-- The column that the cell is in. -/
def column : OverviewCell → Column
  | errorCount => .errorCount
  | runningCount => .runningCount
  | latency _ => .latencyCounts

end OverviewCell

/-- What the detail table shows: a state of `Navigation`. -/
inductive Selection where
  | overview
  | errorDetail (spanName : String)
  | runningDetail (spanName : String)
  | latencyDetail (spanName : String) (bucket : LatencyBucket)
  deriving DecidableEq, Repr

namespace Selection

/-- The selection that a click on a cell in the row of a span name makes: `drill_down`. -/
def ofCell (cell : OverviewCell) (spanName : String) : Selection :=
  match cell with
  | .errorCount => errorDetail spanName
  | .runningCount => runningDetail spanName
  | .latency bucket => latencyDetail spanName bucket

/-- The view that shows the selection. -/
def view : Selection → View
  | overview => .overview
  | errorDetail _ => .error
  | runningDetail _ => .running
  | latencyDetail _ _ => .latency

/-- The selected span name: `span_name`. -/
def spanName? : Selection → Option String
  | overview => none
  | errorDetail spanName | runningDetail spanName | latencyDetail spanName _ => some spanName

/-- The key of the selection: `drilldown_key`. -/
def key? : Selection → Option DetailKey
  | overview => none
  | errorDetail spanName | runningDetail spanName => some ⟨spanName, none⟩
  | latencyDetail spanName bucket => some ⟨spanName, some bucket⟩

/-- What the spans of the selection have in common, the `title` of `subheading`. -/
def title? : Selection → Option String
  | overview => none
  | errorDetail _ => some "Error"
  | runningDetail _ => some "Running"
  | latencyDetail _ bucket => some (bucket.label ++ " Bucket")

/-- The last line of `subheading`: how many spans are shown, and which status they have. -/
def remark (s : Selection) (sampleLimit : Nat) : String :=
  let status :=
    match s.view.spec.commonStatus with
    | some status => " All of these spans have status code " ++ status
    | none => ""
  "Showing sampled span details (up to " ++ Numeral.text sampleLimit ++ ")." ++ status

/-- The subheading above the detail table: `subheading`. The overview has none. -/
def subheading? (s : Selection) (sampleLimit : Nat) : Option String := do
  let spanName ← s.spanName?
  let title ← s.title?
  let heading := Html.text spanName (.lineBreak (.ofText (title ++ " Spans")))
  let line := Html.ofText (s.remark sampleLimit)
  some (Html.node .h2 [] heading ++ Html.node .i [] line).render

end Selection

end SpanDashboard
