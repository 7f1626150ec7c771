import SpanDashboard.Html.Shown
import SpanDashboard.Table.Row
import SpanDashboard.Time.Timestamp
import SpanDashboard.View.Spec

/-!
# Tables

A table is rendered from a view and its rows: a header with the widths and the labels of the
columns (`render_header`), and a body with one row of cells for each record (`render_rows`). Cells
that open a detail view carry their column, the key of their row and, for a latency bucket, its
position.
-/

set_option autoImplicit false

namespace SpanDashboard

/-- A rendered table: a `TableMarkup`. -/
structure Table where
  /-- Everything before the body. -/
  header : String
  /-- The rows. -/
  body : String
  deriving DecidableEq, Repr

namespace Table

/-- A cell: `td`. -/
def plainCell (content : Html) : Html :=
  .node .td [] content

/-- A cell that opens a detail view: `clickable_td`. -/
def clickableCell (column : Column) (key : String) (bucket : Option LatencyBucket)
    (content : Html) : Html :=
  let place := (bucket.map fun b => (Attribute.bucket, Numeral.text b.index)).toList
  .node .td ([(.style, "click"), (.column, column.id), (.row, key)] ++ place) content

/-- A cell with a number of spans. -/
def countCell (spec : ViewSpec) (column : Column) (key : String) (bucket : Option LatencyBucket)
    (n : UInt64) : Html :=
  let content := Html.ofText (Numeral.text n.toNat)
  if spec.isClickable column then clickableCell column key bucket content else plainCell content

/-- An event as it is shown, with its time as text: `event_value`. -/
def shownEvent (zone : Zone) (e : SpanEvent) : Json.Ordered where
  json :=
    .object
      [("attributes", .object e.attributes.members),
        ("name", .string e.name),
        ("timestamp", .string (Timestamp.text zone e.timestamp.toInt))]
  sorted := by
    have increasing : ["attributes", "name", "timestamp"].Pairwise (· < ·) := by decide
    refine .object (List.Pairwise.of_map Prod.fst (fun _ _ before => before) increasing) ?_
    simp only [List.forall_mem_cons]
    exact ⟨e.attributes.sorted, .string _, .string _, List.forall_mem_nil _⟩

/-- The cells of one column of a row: `render_cells`. -/
def cells (spec : ViewSpec) (zone : Zone) (row : Row) (column : Column) : Html :=
  match row.cell column with
  | .text s => plainCell (.shownText s)
  | .instant n => plainCell (.ofText (Timestamp.text zone n.toInt))
  | .count n => countCell spec column row.key none n
  | .latencyCounts counts =>
    .concat (LatencyBucket.all.map fun b =>
      countCell spec column row.key (some b) counts[b.index])
  | .attributes ⟨[], _⟩ => plainCell .nothing
  | .attributes values => plainCell (.codeBlock values.object)
  | .events [] => plainCell .nothing
  | .events list => plainCell (.concat (list.map fun e => .codeBlock (shownEvent zone e)))
  | .missing => .concat (List.replicate column.cellCount (plainCell .notSet))

/-- A row: `render_row`. -/
def row (spec : ViewSpec) (zone : Zone) (r : Row) : Html :=
  .node .tr [] (.concat (spec.columns.map (cells spec zone r)))

/-- The rows of a table: `render_rows`. -/
def rows (spec : ViewSpec) (zone : Zone) (rs : List Row) : Html :=
  .concat (rs.map (row spec zone))

/-- `render_header`, the header of a table: the widths of its columns, and its labels. -/
def headerHtml (spec : ViewSpec) : Html :=
  let columns := spec.layout.flatMap fun w =>
    List.replicate w.repeats (Html.node .col [(.style, w.width.style)] .empty)
  let labels := spec.labels.map fun label => Html.node .th [] (.ofText label)
  .node .colgroup [] (.concat columns) ++ .node .thead [] (.node .tr [] (.concat labels))

/-- The table of a view: `render`. -/
def render (view : View) (zone : Zone) (rs : List Row) : Table :=
  ⟨(headerHtml view.spec).render, (rows view.spec zone rs).render⟩

/-- The table as HTML text: `to_html`. -/
def html (t : Table) : String :=
  t.header ++ String.ofList (Html.openingTag .tbody []) ++ t.body ++
    String.ofList (Html.closingTag .tbody)

end Table

end SpanDashboard
