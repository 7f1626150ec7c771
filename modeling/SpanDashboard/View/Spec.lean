import SpanDashboard.View.Column

/-!
# What a view consists of

The static configuration of a `View`: its columns, the labels above them, their widths, the columns
whose cells can be clicked, and the template of the endpoint that serves the records.
-/

set_option autoImplicit false

namespace SpanDashboard

/-- The two widths of table columns: a `WidthClass`. -/
inductive Width where
  | small | medium
  deriving DecidableEq, Repr

/-- The style class of a width: `css_class`. -/
def Width.style : Width → String
  | small => "sm"
  | medium => "md"

/-- Adjacent table columns of one width: a `ColumnWidth`. -/
structure ColumnGroup where
  width : Width
  repeats : Nat
  deriving DecidableEq, Repr

/-- The description of a view, the fields of a `View`. -/
structure ViewSpec where
  /-- The path of the records, with places for a span name and a latency bucket. -/
  pathTemplate : String
  /-- The widths of the table columns from left to right. -/
  layout : List ColumnGroup
  /-- The columns from left to right. -/
  columns : List Column
  /-- The labels of the table columns, where they are not the identifiers of the columns. -/
  cellLabels : Option (List String)
  /-- The columns whose cells open a detail view. -/
  clickable : List Column
  /-- The status that all spans of the view have. -/
  commonStatus : Option String
  deriving DecidableEq, Repr

namespace ViewSpec

/-- `NAME_PLACEHOLDER`: the place of a span name in an endpoint template. -/
def namePlace : String :=
  "\x7bname\x7d"

/-- `BUCKET_PLACEHOLDER`: the place of a latency bucket in an endpoint template. -/
def bucketPlace : String :=
  "\x7bbucket\x7d"

/-- The labels of the table columns: `header_labels`. -/
def labels (s : ViewSpec) : List String :=
  s.cellLabels.getD (s.columns.map Column.id)

-- Sums of natural numbers are built on the numeral zero, whichever other zeros are at hand.
attribute [local instance (2000)] Zero.ofOfNat0

/-- The number of cells in a row: `row_width`. -/
def cellCount (s : ViewSpec) : Nat :=
  (s.columns.map Column.cellCount).sum

/-- The number of table columns that the layout describes: `layout_width`. -/
def layoutCount (s : ViewSpec) : Nat :=
  (s.layout.map ColumnGroup.repeats).sum

/-- Whether cells of a column open a detail view: `is_navigable`. -/
def isClickable (s : ViewSpec) (c : Column) : Bool :=
  s.clickable.contains c

end ViewSpec

namespace View

/-- The description of each view: `OVERVIEW`, `ERROR`, `RUNNING` and `LATENCY`, which `resolve_view`
finds. -/
def spec : View → ViewSpec
  | overview =>
    { pathTemplate := "aggregations"
      layout := [⟨.medium, 1⟩, ⟨.small, 11⟩]
      columns := [.name, .errorCount, .runningCount, .latencyCounts]
      cellLabels := some (["name", "error", "running"] ++ LatencyBucket.all.map LatencyBucket.label)
      clickable := [.errorCount, .runningCount, .latencyCounts]
      commonStatus := none }
  | error =>
    { pathTemplate := "error/" ++ ViewSpec.namePlace
      layout := [⟨.small, 5⟩, ⟨.medium, 3⟩]
      columns :=
        [.spanId, .parentId, .traceId, .start, .status, .description, .attributes, .events]
      cellLabels := none
      clickable := []
      commonStatus := none }
  | running =>
    { pathTemplate := "running/" ++ ViewSpec.namePlace
      layout := [⟨.small, 4⟩, ⟨.medium, 3⟩]
      columns := [.spanId, .parentId, .traceId, .start, .description, .attributes, .events]
      cellLabels := none
      clickable := []
      commonStatus := some "pending" }
  | latency =>
    { pathTemplate := "latency/" ++ ViewSpec.namePlace ++ "/" ++ ViewSpec.bucketPlace
      layout := [⟨.small, 5⟩, ⟨.medium, 3⟩]
      columns :=
        [.spanId, .parentId, .traceId, .start, .duration, .description, .attributes, .events]
      cellLabels := none
      clickable := []
      commonStatus := some "ok" }

/-- `has_drilldown`: whether anything in the view leads on to a detail view. -/
def opensDetail (v : View) : Bool :=
  !v.spec.clickable.isEmpty || v.showsBuckets

end View

end SpanDashboard
