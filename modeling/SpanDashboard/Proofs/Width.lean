import Mathlib.Algebra.Ring.Nat
import SpanDashboard.Proofs.Results
import SpanDashboard.Table.Render

/-!
# The width of a table

A row that has been read from a response has as many cells as the table has columns: what
`render_cells` makes of a value takes up the cells of its column (`cell_span`), and a column takes
up as many cells as it has labels.
-/

set_option autoImplicit false

namespace SpanDashboard

namespace Html

/-- How many elements of a kind there are, at any depth. -/
def count (tag : Tag) : Html → Nat
  | empty => 0
  | text _ rest => rest.count tag
  | lineBreak rest => rest.count tag
  | element other _ children rest =>
    (if other = tag then 1 else 0) + children.count tag + rest.count tag

@[simp] theorem count_append (tag : Tag) (m n : Html) :
    (m ++ n).count tag = m.count tag + n.count tag := by
  induction m with
  | empty => simp [count]
  | text s rest ih => simp [count, ih]
  | lineBreak rest ih => simp [count, ih]
  | element other attributes children rest _ ih =>
    simp only [element_append, count, ih]
    omega

@[simp] theorem count_concat_cons (tag : Tag) (m : Html) (ms : List Html) :
    (concat (m :: ms)).count tag = m.count tag + (concat ms).count tag :=
  count_append tag m (concat ms)

theorem count_concat_map {α : Type} {tag : Tag} {f : α → Html} {width : α → Nat} {as : List α}
    (each : ∀ a ∈ as, (f a).count tag = width a) :
    (concat (as.map f)).count tag = (as.map width).sum := by
  induction as with
  | nil => rfl
  | cons a rest ih =>
    obtain ⟨first, others⟩ := List.forall_mem_cons.1 each
    rw [List.map_cons, count_concat_cons, first, ih others]
    rfl

theorem count_concat_const {tag : Tag} {n : Nat} {ms : List Html}
    (each : ∀ m ∈ ms, m.count tag = n) : (concat ms).count tag = ms.length * n := by
  induction ms with
  | nil => simp [concat, count]
  | cons m rest ih =>
    obtain ⟨first, others⟩ := List.forall_mem_cons.1 each
    rw [count_concat_cons, first, ih others, List.length_cons, Nat.add_mul]
    omega

@[simp] theorem count_ofText (tag : Tag) (s : String) : (ofText s).count tag = 0 := rfl

@[simp] theorem count_node (tag other : Tag) (attributes : List (Attribute × String))
    (children : Html) :
    (node other attributes children).count tag =
      (if other = tag then 1 else 0) + children.count tag := rfl

/-- No cell is shown inside of a text. -/
@[simp] theorem count_shownText (s : String) : (shownText s).count .td = 0 := by
  unfold shownText
  split <;> rfl

end Html

/-- How many cells a value takes up. -/
def CellValue.width (column : Column) : CellValue → Nat
  | .latencyCounts _ => LatencyBucket.count
  | .missing => column.cellCount
  | .text _ | .instant _ | .count _ | .attributes _ | .events _ => 1

/-- Whether the values of a row take up the cells of their columns. -/
def Row.Fits (row : Row) : Prop :=
  ∀ column, (row.cell column).width column = column.cellCount

theorem SpanAggregate.toRow_fits (r : SpanAggregate) : r.toRow.Fits := by
  intro column
  cases column <;> rfl

theorem SpanDetail.toRow_fits (r : SpanDetail) : r.toRow.Fits := by
  intro column
  obtain ⟨_, _, _, _, _, duration, status, _, _⟩ := r
  cases column with
  | duration => cases duration <;> rfl
  | status => cases status <;> rfl
  | name => rfl
  | errorCount => rfl
  | runningCount => rfl
  | latencyCounts => rfl
  | spanId => rfl
  | parentId => rfl
  | traceId => rfl
  | start => rfl
  | description => rfl
  | attributes => rfl
  | events => rfl

theorem View.readRow_fits {view : View} {value : Json} {row : Row}
    (read : view.readRow value = .ok row) : row.Fits := by
  cases view with
  | overview =>
    obtain ⟨r, -, rfl⟩ := map_eq_ok_iff.1 read
    exact r.toRow_fits
  | _ =>
    obtain ⟨r, -, rfl⟩ := map_eq_ok_iff.1 read
    exact r.toRow_fits

/-- The rows of a response fit. -/
theorem Response.rows_fits {view : View} {body : String} {rs : List Row}
    (read : Response.rows view body = .ok rs) : ∀ row ∈ rs, row.Fits := by
  intro row member
  obtain ⟨items, -, each⟩ := Response.rows_eq_ok_iff.1 read
  obtain ⟨item, -, found⟩ := exists_of_mem_right each member
  exact View.readRow_fits found

namespace Table

@[simp] theorem count_countCell (spec : ViewSpec) (column : Column) (key : String)
    (bucket : Option LatencyBucket) (n : UInt64) :
    (countCell spec column key bucket n).count .td = 1 := by
  unfold countCell
  split <;> rfl

/-- A value takes up as many cells as its width says. -/
theorem count_cells (spec : ViewSpec) (zone : Zone) (row : Row) (column : Column) :
    (cells spec zone row column).count .td = (row.cell column).width column := by
  unfold cells
  cases row.cell column with
  | text s => simp [plainCell, CellValue.width]
  | instant n => simp [plainCell, CellValue.width]
  | count n => simp [CellValue.width]
  | latencyCounts counts =>
    have each : ∀ m ∈ LatencyBucket.all.map fun b =>
        countCell spec column row.key (some b) counts[b.index], m.count .td = 1 := by
      intro m member
      obtain ⟨b, -, rfl⟩ := List.mem_map.1 member
      exact count_countCell spec column row.key (some b) counts[b.index]
    exact Html.count_concat_const each
  | attributes values =>
    obtain ⟨members, sorted⟩ := values
    cases members <;> rfl
  | events list =>
    cases list with
    | nil => rfl
    | cons e rest =>
      have each : ∀ m ∈ (e :: rest).map fun e => Html.codeBlock (shownEvent zone e),
          m.count .td = 0 := by
        intro m member
        obtain ⟨e, -, rfl⟩ := List.mem_map.1 member
        rfl
      show 1 +
        (Html.concat ((e :: rest).map fun e => Html.codeBlock (shownEvent zone e))).count .td = 1
      rw [Html.count_concat_const each, Nat.mul_zero]
  | missing =>
    have each : ∀ m ∈ List.replicate column.cellCount (plainCell Html.notSet),
        m.count .td = 1 := by
      intro m member
      rw [(List.mem_replicate.1 member).2]
      rfl
    show (Html.concat (List.replicate column.cellCount (plainCell Html.notSet))).count .td =
      column.cellCount
    rw [Html.count_concat_const each, List.length_replicate, Nat.mul_one]

/-- A row that fits has as many cells as its view. -/
theorem count_row {r : Row} (fits : r.Fits) (spec : ViewSpec) (zone : Zone) :
    (row spec zone r).count .td = spec.cellCount := by
  have each : ∀ column ∈ spec.columns, (cells spec zone r column).count .td = column.cellCount := by
    intro column _
    rw [count_cells, fits column]
  rw [row, Html.count_node, Html.count_concat_map each]
  exact Nat.zero_add _

/-- There is no label among the widths of the columns. -/
theorem count_layout (spec : ViewSpec) :
    (Html.concat (spec.layout.flatMap fun w => List.replicate w.repeats
      (Html.node .col [(.style, w.width.style)] .empty))).count .th = 0 := by
  refine (Html.count_concat_const fun m member => ?_).trans (Nat.mul_zero _)
  obtain ⟨w, -, repeated⟩ := List.mem_flatMap.1 member
  rw [(List.mem_replicate.1 repeated).2]
  rfl

/-- The header has a cell for each label. -/
theorem count_header (spec : ViewSpec) : (headerHtml spec).count .th = spec.labels.length := by
  have labels : ∀ m ∈ spec.labels.map fun label => Html.node .th [] (.ofText label),
      m.count .th = 1 := by
    intro m member
    obtain ⟨label, -, rfl⟩ := List.mem_map.1 member
    rfl
  simp [headerHtml, count_layout, Html.count_concat_const labels]

/-- A row that fits has as many cells as the header of its view. -/
theorem count_row_eq_header {r : Row} (fits : r.Fits) (view : View) (zone : Zone) :
    (row view.spec zone r).count .td = (headerHtml view.spec).count .th := by
  rw [count_row fits, count_header]
  cases view <;> rfl

end Table

end SpanDashboard
