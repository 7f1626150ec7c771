import SpanDashboard.Proofs.Skeleton

/-!
# The structure of a table

A table has the tags of its skeleton. Its rows are the one of `render_header` and one of
`render_row` for each record, and each of them has as many cells as the view has columns. Nothing of
this depends on what the texts of the records are.
-/

set_option autoImplicit false

namespace SpanDashboard

theorem Html.count_concat_eq_zero {tag : Tag} {ms : List Html}
    (nothing : ∀ m ∈ ms, m.count tag = 0) : (concat ms).count tag = 0 := by
  rw [count_concat_const nothing, Nat.mul_zero]

namespace Table

section Outer

variable {tag : Tag} (outer : tag ∈ [Tag.tr, .th, .col])

include outer

theorem ne_of_outer {inner : Tag} (inside : inner ∈ [Tag.td, .span, .pre, .code]) :
    inner ≠ tag := by
  revert outer inside
  cases tag <;> cases inner <;> decide

theorem count_cell_of_outer {content : Html} (nothing : content.count tag = 0)
    (attributes : List (Attribute × String)) :
    (Html.node .td attributes content).count tag = 0 := by
  rw [Html.count_node, if_neg (ne_of_outer outer (by decide)), nothing]

theorem count_marker_of_outer (remark : String) : (Html.marker remark).count tag = 0 := by
  rw [Html.marker, Html.count_node, if_neg (ne_of_outer outer (by decide)), Html.count_ofText]

theorem count_codeBlock_of_outer (value : Json.Ordered) : (Html.codeBlock value).count tag = 0 := by
  rw [Html.codeBlock, Html.count_node, Html.count_node, if_neg (ne_of_outer outer (by decide)),
    if_neg (ne_of_outer outer (by decide)), Html.count_ofText]

theorem count_shownText_of_outer (s : String) : (Html.shownText s).count tag = 0 := by
  unfold Html.shownText
  split
  · exact count_marker_of_outer outer _
  · rfl

theorem count_countCell_of_outer (spec : ViewSpec) (column : Column) (key : String)
    (bucket : Option LatencyBucket) (n : UInt64) :
    (countCell spec column key bucket n).count tag = 0 := by
  unfold countCell
  split
  · exact count_cell_of_outer outer rfl _
  · exact count_cell_of_outer outer rfl _

/-- There are no rows, and no parts of a header, inside of cells. -/
theorem count_cells_of_outer (spec : ViewSpec) (zone : Zone) (row : Row) (column : Column) :
    (cells spec zone row column).count tag = 0 := by
  unfold cells
  cases row.cell column with
  | text s => exact count_cell_of_outer outer (count_shownText_of_outer outer s) _
  | instant n => exact count_cell_of_outer outer rfl _
  | count n => exact count_countCell_of_outer outer spec column row.key none n
  | latencyCounts counts =>
    refine Html.count_concat_eq_zero fun m member => ?_
    obtain ⟨b, -, rfl⟩ := List.mem_map.1 member
    exact count_countCell_of_outer outer spec column row.key (some b) counts[b.index]
  | attributes values =>
    obtain ⟨members, sorted⟩ := values
    cases members with
    | nil => exact count_cell_of_outer outer (count_marker_of_outer outer _) _
    | cons member rest => exact count_cell_of_outer outer (count_codeBlock_of_outer outer _) _
  | events list =>
    cases list with
    | nil => exact count_cell_of_outer outer (count_marker_of_outer outer _) _
    | cons e rest =>
      refine count_cell_of_outer outer (Html.count_concat_eq_zero fun m member => ?_) _
      obtain ⟨e, -, rfl⟩ := List.mem_map.1 member
      exact count_codeBlock_of_outer outer (shownEvent zone e)
  | missing =>
    refine Html.count_concat_eq_zero fun m member => ?_
    rw [(List.mem_replicate.1 member).2]
    exact count_cell_of_outer outer (count_marker_of_outer outer _) _

end Outer

/-- What is inside of a row. -/
def rowCells (spec : ViewSpec) (zone : Zone) (r : Row) : Html :=
  .concat (spec.columns.map (cells spec zone r))

theorem count_rowCells_of_outer {tag : Tag} (outer : tag ∈ [Tag.tr, .th, .col]) (spec : ViewSpec)
    (zone : Zone) (r : Row) : (rowCells spec zone r).count tag = 0 := by
  refine Html.count_concat_eq_zero fun m member => ?_
  obtain ⟨column, -, rfl⟩ := List.mem_map.1 member
  exact count_cells_of_outer outer spec zone r column

theorem count_rows_of_outer {tag : Tag} (outer : tag ∈ [Tag.tr, .th, .col]) (spec : ViewSpec)
    (zone : Zone) (rs : List Row) :
    (rows spec zone rs).count tag = rs.length * if Tag.tr = tag then 1 else 0 := by
  have each : ∀ m ∈ rs.map (row spec zone), m.count tag = if Tag.tr = tag then 1 else 0 := by
    intro m member
    obtain ⟨r, -, rfl⟩ := List.mem_map.1 member
    have inside := count_rowCells_of_outer outer spec zone r
    rw [rowCells] at inside
    rw [row, Html.count_node, inside, Nat.add_zero]
  rw [rows, Html.count_concat_const each, List.length_map]

/-- The header of a view has one row, with a cell for each column. -/
theorem header_eq (view : View) :
    ∃ columns labels : Html,
      headerHtml view.spec = .node .colgroup [] columns ++ .node .thead [] (.node .tr [] labels) ∧
      columns.count .tr = 0 ∧ labels.count .tr = 0 ∧ labels.count .th = view.spec.cellCount := by
  refine ⟨_, _, rfl, ?_⟩
  cases view <;> exact ⟨rfl, rfl, rfl⟩

/-- Each row of a body is an element of its own. -/
theorem elements_rows (spec : ViewSpec) (zone : Zone) (rs : List Row) (later : List Piece) :
    Markup.elements .tr ((rows spec zone rs).pieces ++ later) =
      rs.map (fun r => (Tag.tr.opening [], (rowCells spec zone r).pieces)) ++
        Markup.elements .tr later :=
  Html.elements_concat .tr (fun _ => []) (rowCells spec zone)
    (fun r _ => count_rowCells_of_outer (by decide) spec zone r) later

/-- The rows of a table are its header and one row for each record. -/
theorem elements_table (view : View) (zone : Zone) (rs : List Row) :
    ∃ labels : Html,
      Markup.elements .tr (Markup.cut (render view zone rs).html) =
        (Tag.tr.opening [], labels.pieces) ::
          rs.map (fun r => (Tag.tr.opening [], (rowCells view.spec zone r).pieces)) ∧
      labels.count .th = view.spec.cellCount := by
  obtain ⟨columns, labels, header, no_row, no_inner_row, cells⟩ := header_eq view
  refine ⟨labels, ?_, cells⟩
  have first : (Html.node .colgroup [] columns).count .tr = 0 := by
    rw [Html.count_node, no_row]
    rfl
  have parts : Markup.cut (render view zone rs).html =
      (Html.node .colgroup [] columns).pieces ++ .tag (Tag.thead.opening []) ::
        ((Html.node .tr [] labels).pieces ++
          .tag Tag.thead.closing :: .tag (Tag.tbody.opening []) ::
            ((rows view.spec zone rs).pieces ++ [.tag Tag.tbody.closing])) := by
    rw [html_render, Html.cut_render, header, Html.pieces_append, Html.pieces_append,
      Html.pieces_node .thead, Html.pieces_node .tbody]
    simp only [List.append_assoc, List.cons_append, List.nil_append]
  rw [parts, Html.elements_pieces first, Markup.elements_other rfl,
    Html.elements_node no_inner_row, Markup.elements_other rfl, Markup.elements_other rfl,
    elements_rows, Markup.elements_other rfl, Markup.elements, List.append_nil]

theorem count_table (view : View) (zone : Zone) (rs : List Row) (tag : Tag) :
    (Markup.tags (render view zone rs).html).countP tag.opens =
      (headerHtml view.spec).count tag +
        ((if Tag.tbody = tag then 1 else 0) + (rows view.spec zone rs).count tag) := by
  rw [html_render, Html.tags_render, Html.countP_opens_tags, Html.count_append, Html.count_node]

/-- The row of a record has as many cells as its view has columns. -/
theorem countP_td_rowCells {r : Row} (fits : r.Fits) (spec : ViewSpec) (zone : Zone) :
    ((rowCells spec zone r).pieces.filterMap Piece.tag?).countP Tag.td.opens = spec.cellCount := by
  have counted := count_row fits spec zone
  rw [row, Html.count_node, if_neg (by decide), Nat.zero_add] at counted
  exact ((rowCells spec zone r).countP_opens_tags .td).trans counted

end Table

namespace Record

/-- The text of the table of some records. -/
def html (view : View) (zone : Zone) (records : List Record) : String :=
  (Table.render view zone (records.map Record.toRow)).html

theorem map_withoutRow_tags (view : View) (zone : Zone) (records : List Record) :
    (Markup.tags (html view zone records)).map Markup.withoutRow =
      (Skeleton.table view (records.map (shape view))).tags := by
  rw [html, Table.html_render, Html.tags_render, (Table.bares_table view zone records).tags_eq]

/-- The rows of a table, and the parts of its header, are opened outside of the cells. -/
theorem countP_opens_of_outer {tag : Tag} (outer : tag ∈ [Tag.tr, .th, .col]) (view : View)
    (zone : Zone) (records : List Record) :
    (Markup.tags (html view zone records)).countP tag.opens =
      (Table.headerHtml view.spec).count tag + records.length * if Tag.tr = tag then 1 else 0 := by
  have other : Tag.tbody ≠ tag := by
    revert outer
    cases tag <;> decide
  rw [html, Table.count_table, if_neg other, Table.count_rows_of_outer outer, List.length_map,
    Nat.zero_add]

/-- **No text of a record changes the structure of a table.** Without the values of `data-row`, the
tags of a table are those of the skeleton for the shapes of its records, so they are the same for
all records of the same shapes. The values contain no delimiter, and no bracket is left outside of
the tags. There is one row for the header and one for each record, and the columns, the cells of the
header, and the cells of each single row are as many as the view says. -/
theorem tags_eq_skeleton (view : View) (zone : Zone) (records : List Record) :
    (Markup.tags (html view zone records)).map Markup.withoutRow =
      (Skeleton.table view (records.map (shape view))).tags ∧
    (∀ zone' others, others.map (shape view) = records.map (shape view) →
      (Markup.tags (html view zone' others)).map Markup.withoutRow =
        (Markup.tags (html view zone records)).map Markup.withoutRow) ∧
    (∀ inside ∈ Markup.tags (html view zone records), ∀ before value after,
      Markup.splitRow? inside = some (before, value, after) →
      ∀ c ∈ value, c ∉ Entity.delimiters) ∧
    (∀ c ∈ Markup.text (html view zone records), c ≠ '<' ∧ c ≠ '>') ∧
    (Markup.tags (html view zone records)).countP Tag.tr.opens = records.length + 1 ∧
    (Markup.tags (html view zone records)).countP Tag.col.opens = view.spec.cellCount ∧
    (Markup.tags (html view zone records)).countP Tag.th.opens = view.spec.cellCount ∧
    ∃ header rows, Markup.elements .tr (Markup.cut (html view zone records)) = header :: rows ∧
      (header.2.filterMap Piece.tag?).countP Tag.th.opens = view.spec.cellCount ∧
      rows.length = records.length ∧
      ∀ row ∈ rows, (row.2.filterMap Piece.tag?).countP Tag.td.opens = view.spec.cellCount := by
  refine ⟨map_withoutRow_tags view zone records, ?_, ?_, ?_, ?_, ?_, ?_, ?_⟩
  · intro zone' others same
    rw [map_withoutRow_tags, map_withoutRow_tags, same]
  · rw [html, Table.html_render, Html.tags_render]
    exact (Table.bares_table view zone records).harmless
  · intro c member
    rw [html, Table.html_render] at member
    exact Html.no_bracket_of_mem_text member
  · have one : (Table.headerHtml view.spec).count .tr = 1 := by
      cases view <;> rfl
    rw [countP_opens_of_outer (by decide), one, if_pos rfl, Nat.mul_one, Nat.add_comm]
  · rw [countP_opens_of_outer (by decide)]
    cases view <;> rfl
  · rw [countP_opens_of_outer (by decide)]
    cases view <;> rfl
  · obtain ⟨labels, rows_eq, cells⟩ :=
      Table.elements_table view zone (records.map Record.toRow)
    refine ⟨_, _, rows_eq, ?_, by simp, ?_⟩
    · exact (labels.countP_opens_tags .th).trans cells
    · intro row member
      obtain ⟨r, shown, rfl⟩ := List.mem_map.1 member
      obtain ⟨record, -, rfl⟩ := List.mem_map.1 shown
      exact Table.countP_td_rowCells record.toRow_fits view.spec zone

end Record

end SpanDashboard
