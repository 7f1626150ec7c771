import SpanDashboard.Proofs.Markup

/-!
# The skeleton of a table

The tags of a table depend on the records only by the shape of their values: whether a value has
nothing to show, and how many blocks of code it takes. The one other thing that they contain of a
record is the value of `data-row`, which is escaped. The skeleton is the table of a shape: it has no
texts, and no key in any row.
-/

set_option autoImplicit false

namespace SpanDashboard

/-- A record of either kind. -/
inductive Record where
  | aggregate (r : SpanAggregate)
  | detail (r : SpanDetail)

/-- A record as a table sees it. -/
def Record.toRow : Record → Row
  | aggregate r => r.toRow
  | detail r => r.toRow

/-! ## Shapes -/

/-- What the tags of a table say of a value. -/
inductive CellShape where
  /-- A text that is not blank, a time, or a number. -/
  | filled
  /-- A blank text, or no value. -/
  | unset
  /-- A structured value, with as many blocks of code. -/
  | blocks (n : Nat)
  deriving DecidableEq, Repr

/-- The shape of a value: attributes make one block if there are any, events one block each. -/
def CellValue.shape : CellValue → CellShape
  | .text s => if Text.IsWhite s then .unset else .filled
  | .instant _ | .count _ | .latencyCounts _ => .filled
  | .attributes values => .blocks (if values.members.isEmpty then 0 else 1)
  | .events list => .blocks list.length
  | .missing => .unset

/-- The shapes of the values that a view shows of a record. -/
def Record.shape (view : View) (r : Record) : List CellShape :=
  view.spec.columns.map fun column => (r.toRow.cell column).shape

/-- The kind that a value is of. -/
def CellValue.kind? : CellValue → Option CellKind
  | .text _ => some .text
  | .instant _ => some .instant
  | .count _ => some .count
  | .latencyCounts _ => some .latencyCounts
  | .attributes _ => some .attributes
  | .events _ => some .events
  | .missing => none

/-- Whether the values of a row are of the kinds of their columns. -/
def Row.Typed (row : Row) : Prop :=
  ∀ column kind, (row.cell column).kind? = some kind → column.kind = kind

theorem SpanAggregate.toRow_typed (r : SpanAggregate) : r.toRow.Typed := by
  intro column kind of_kind
  cases column <;> simp_all [SpanAggregate.toRow, CellValue.kind?, Column.kind]

theorem SpanDetail.toRow_typed (r : SpanDetail) : r.toRow.Typed := by
  intro column kind of_kind
  obtain ⟨_, _, _, _, _, duration, status, _, _⟩ := r
  cases column with
  | duration => cases duration <;> simp_all [SpanDetail.toRow, CellValue.kind?, Column.kind]
  | status => cases status <;> simp_all [SpanDetail.toRow, CellValue.kind?, Column.kind]
  | _ => simp_all [SpanDetail.toRow, CellValue.kind?, Column.kind]

theorem Record.toRow_typed (r : Record) : r.toRow.Typed := by
  cases r with
  | aggregate r => exact r.toRow_typed
  | detail r => exact r.toRow_typed

theorem Record.toRow_fits (r : Record) : r.toRow.Fits := by
  cases r with
  | aggregate r => exact r.toRow_fits
  | detail r => exact r.toRow_fits

/-! ## Tables without texts -/

namespace Skeleton

/-- The cells of a column: one for each bucket, or a single one. -/
def places (column : Column) : List (Option LatencyBucket) :=
  if column.kind = .latencyCounts then LatencyBucket.all.map some else [none]

/-- A cell with nothing to show. -/
def emptyCell : Html :=
  Table.plainCell (.node .span [(.style, "empty")] .empty)

/-- A block of code. -/
def codeBlock : Html :=
  .node .pre [] (.node .code [] .empty)

/-- The cells of one column of a row. -/
def cells (spec : ViewSpec) (column : Column) : CellShape → Html
  | .filled =>
    .concat ((places column).map fun bucket =>
      if spec.isClickable column then Table.clickableCell column "" bucket .empty
      else Table.plainCell .empty)
  | .unset => .concat (List.replicate column.cellCount emptyCell)
  | .blocks 0 => emptyCell
  | .blocks (n + 1) => Table.plainCell (.concat (List.replicate (n + 1) codeBlock))

/-- A row. -/
def row (spec : ViewSpec) (shapes : List CellShape) : Html :=
  .node .tr [] (.concat (List.zipWith (cells spec) spec.columns shapes))

/-- The table of a view. -/
def table (view : View) (shapes : List (List CellShape)) : Html :=
  Table.headerHtml view.spec ++ .node .tbody [] (.concat (shapes.map (row view.spec)))

end Skeleton

/-! ## The value of `data-row` -/

namespace Markup

/-- What stands before the value of `data-row` in a tag. -/
def rowMark : List Char :=
  ' ' :: Attribute.row.name.toList ++ ['=', '\'']

/-- Cuts a tag at the value of `data-row`: what stands before it, the value, which ends before the
next apostrophe, and the rest. -/
def splitRow? : List Char → Option (List Char × List Char × List Char)
  | [] => none
  | c :: rest =>
    if rowMark.isPrefixOf (c :: rest) then
      let value := (c :: rest).drop rowMark.length
      some (rowMark, value.takeWhile (· ≠ '\''), value.dropWhile (· ≠ '\''))
    else (splitRow? rest).map fun parts => (c :: parts.1, parts.2)

/-- A tag without the value of `data-row`. -/
def withoutRow (inside : List Char) : List Char :=
  match splitRow? inside with
  | some (before, _, after) => before ++ after
  | none => inside

theorem splitRow?_eq_some {inside before value after : List Char}
    (split : splitRow? inside = some (before, value, after)) :
    inside = before ++ value ++ after ∧ rowMark <:+ before := by
  induction inside generalizing before with
  | nil => cases split
  | cons c rest ih =>
    rw [splitRow?] at split
    split at split
    case isTrue marked =>
      obtain ⟨rfl, rfl, rfl⟩ : rowMark = before ∧ _ = value ∧ _ = after := by simpa using split
      obtain ⟨later, whole⟩ := List.isPrefixOf_iff_prefix.1 marked
      refine ⟨?_, List.suffix_refl _⟩
      rw [List.append_assoc, List.takeWhile_append_dropWhile, ← whole, List.drop_left]
    case isFalse =>
      obtain ⟨⟨before', value', after'⟩, found, same⟩ := Option.map_eq_some_iff.1 split
      obtain ⟨rfl, rfl, rfl⟩ : c :: before' = before ∧ value' = value ∧ after' = after := by
        simpa using same
      obtain ⟨rfl, marked⟩ := ih found
      exact ⟨rfl, marked.trans (List.suffix_cons c before')⟩

end Markup

namespace Html

theorem concat_singleton (m : Html) : concat [m] = m := by
  show m ++ empty = m
  induction m with
  | empty => rfl
  | text s rest ih => rw [text_append, ih]
  | lineBreak rest ih => rw [lineBreak_append, ih]
  | element tag attributes children rest _ ih => rw [element_append, ih]

/-- Markup that becomes other markup when its texts and the values of `data-row` are taken out,
where the values contain no delimiter. -/
structure Bares (m bare : Html) : Prop where
  tags_eq : m.tags.map Markup.withoutRow = bare.tags
  harmless : ∀ inside ∈ m.tags, ∀ before value after,
    Markup.splitRow? inside = some (before, value, after) → ∀ c ∈ value, c ∉ Entity.delimiters

/-- Markup in which no tag has a value of `data-row`. -/
theorem bares_of_rowless {m bare : Html} (same : m.tags = bare.tags)
    (rowless : ∀ inside ∈ m.tags, Markup.splitRow? inside = none) : m.Bares bare where
  tags_eq := by
    rw [← same, List.map_congr_left fun inside member => by
      rw [Markup.withoutRow, rowless inside member], List.map_id']
  harmless inside member before value after split := by
    rw [rowless inside member] at split
    cases split

theorem bares_empty : empty.Bares empty :=
  bares_of_rowless rfl (by simp)

theorem bares_ofText (s : String) : (ofText s).Bares empty :=
  bares_of_rowless (by simp [tags_ofText]) (by simp [tags_ofText])

theorem Bares.append {m bare n bare' : Html} (first : m.Bares bare) (later : n.Bares bare') :
    (m ++ n).Bares (bare ++ bare') where
  tags_eq := by
    rw [tags_append, tags_append, List.map_append, first.tags_eq, later.tags_eq]
  harmless inside member := by
    rw [tags_append, List.mem_append] at member
    rcases member with earlier | after
    · exact first.harmless inside earlier
    · exact later.harmless inside after

theorem bares_concat {α : Type} {as : List α} {f g : α → Html}
    (each : ∀ a ∈ as, (f a).Bares (g a)) :
    (concat (as.map f)).Bares (concat (as.map g)) := by
  induction as with
  | nil => exact bares_empty
  | cons a rest ih =>
    obtain ⟨first, others⟩ := List.forall_mem_cons.1 each
    exact first.append (ih others)

/-- An element in whose opening tag the value of `data-row` is taken out. -/
theorem Bares.element {m bare : Html} (inner : m.Bares bare) {tag : Tag}
    {attributes others : List (Attribute × String)}
    (opening : Markup.withoutRow (tag.opening attributes) = tag.opening others)
    (harmless : ∀ before value after,
      Markup.splitRow? (tag.opening attributes) = some (before, value, after) →
      ∀ c ∈ value, c ∉ Entity.delimiters) :
    (node tag attributes m).Bares (node tag others bare) where
  tags_eq := by
    have closing : Markup.withoutRow tag.closing = tag.closing := by cases tag <;> rfl
    rw [tags_node, tags_node, List.map_cons, List.map_append, inner.tags_eq, opening,
      List.map_singleton, closing]
  harmless inside member before value after split := by
    have closing : Markup.splitRow? tag.closing = none := by cases tag <;> rfl
    rw [tags_node, List.mem_cons, List.mem_append, List.mem_singleton] at member
    rcases member with rfl | among | rfl
    · exact harmless before value after split
    · exact inner.harmless inside among before value after split
    · rw [closing] at split
      cases split

/-- An element whose opening tag has no value of `data-row`. -/
theorem Bares.node {m bare : Html} (inner : m.Bares bare) {tag : Tag}
    {attributes : List (Attribute × String)}
    (rowless : Markup.splitRow? (tag.opening attributes) = none) :
    (Html.node tag attributes m).Bares (Html.node tag attributes bare) := by
  refine inner.element ?_ ?_
  · rw [Markup.withoutRow, rowless]
  · intro before value after split
    rw [rowless] at split
    cases split

end Html

namespace Table

/-- What stands before the key in the tag of a cell that can be clicked. -/
def beforeKey (column : Column) : List Char :=
  Tag.td.opening [(.style, "click"), (.column, column.id)] ++ Markup.rowMark

/-- The tag of a cell that can be clicked, cut at its key. -/
theorem splitRow?_clickable (column : Column) (key : String) (place : List (Attribute × String)) :
    Markup.splitRow? (Tag.td.opening
        ([(.style, "click"), (.column, column.id), (.row, key)] ++ place)) =
      some (beforeKey column, Entity.escapeChars key.toList,
        '\'' :: Html.attributeChars place) := by
  have parts : Tag.td.opening ([(.style, "click"), (.column, column.id), (.row, key)] ++ place) =
      beforeKey column ++ (Entity.escapeChars key.toList ++ '\'' :: Html.attributeChars place) := by
    simp only [beforeKey, Tag.opening, Markup.rowMark, List.cons_append, List.nil_append,
      Html.attributeChars_cons, Html.attributeChars_nil, List.append_assoc]
  have found : ∀ rest, Markup.splitRow? (beforeKey column ++ rest) =
      some (beforeKey column, rest.takeWhile (· ≠ '\''), rest.dropWhile (· ≠ '\'')) := by
    intro rest
    cases column <;> rfl
  have unquoted : ∀ c ∈ Entity.escapeChars key.toList, decide (c ≠ '\'') = true := by
    intro c member
    rw [decide_eq_true_iff]
    rintro rfl
    exact Entity.not_delimiter_of_mem_escapeChars member (by decide)
  rw [parts, found, List.takeWhile_append_of_pos unquoted, List.dropWhile_append_of_pos unquoted]
  simp

theorem bares_clickableCell {content bare : Html} (inner : content.Bares bare) (column : Column)
    (key : String) (bucket : Option LatencyBucket) :
    (clickableCell column key bucket content).Bares (clickableCell column "" bucket bare) := by
  let place := (bucket.map fun b => (Attribute.bucket, Numeral.text b.index)).toList
  have keyed := splitRow?_clickable column key place
  obtain ⟨keyless, -⟩ := Markup.splitRow?_eq_some (splitRow?_clickable column "" place)
  refine inner.element ?_ ?_
  · rw [Markup.withoutRow, keyed, keyless]
    exact (congrArg (· ++ _) (List.append_nil _)).symm
  · intro before value after split
    obtain ⟨rfl, rfl, rfl⟩ : beforeKey column = before ∧
        Entity.escapeChars key.toList = value ∧ '\'' :: Html.attributeChars place = after := by
      simpa using keyed.symm.trans split
    exact fun c member => Entity.not_delimiter_of_mem_escapeChars member

theorem bares_plainCell {content bare : Html} (inner : content.Bares bare) :
    (plainCell content).Bares (plainCell bare) :=
  inner.node rfl

theorem bares_marker (remark : String) :
    (plainCell (Html.marker remark)).Bares Skeleton.emptyCell :=
  bares_plainCell ((Html.bares_ofText remark).node rfl)

theorem bares_codeBlock (value : Json.Ordered) :
    (Html.codeBlock value).Bares Skeleton.codeBlock :=
  ((Html.bares_ofText value.json.shown).node rfl).node rfl

theorem bares_countCell (spec : ViewSpec) (column : Column) (key : String)
    (bucket : Option LatencyBucket) (n : UInt64) :
    (countCell spec column key bucket n).Bares
      (if spec.isClickable column then clickableCell column "" bucket .empty
        else plainCell .empty) := by
  have content := Html.bares_ofText (Numeral.text n.toNat)
  unfold countCell
  split
  · exact bares_clickableCell content column key bucket
  · exact bares_plainCell content

end Table

/-- Only numbers of spans can be clicked. -/
theorem View.kind_of_isClickable {view : View} {column : Column}
    (clickable : view.spec.isClickable column = true) :
    column.kind = .count ∨ column.kind = .latencyCounts := by
  revert clickable
  cases view <;> cases column <;> decide

namespace Skeleton

variable {column : Column}

theorem cells_filled_single {spec : ViewSpec} (single : column.kind ≠ .latencyCounts) :
    cells spec column .filled =
      if spec.isClickable column then Table.clickableCell column "" none .empty
      else Table.plainCell .empty := by
  rw [cells, places, if_neg single]
  exact Html.concat_singleton _

theorem cells_filled_plain {view : View} (uncounted : column.kind ≠ .count)
    (single : column.kind ≠ .latencyCounts) :
    cells view.spec column .filled = Table.plainCell .empty := by
  rw [cells_filled_single single, if_neg]
  intro clickable
  rcases View.kind_of_isClickable clickable with count | counts
  · exact uncounted count
  · exact single counts

theorem cells_unset_of_single {spec : ViewSpec} (single : column.kind ≠ .latencyCounts) :
    cells spec column .unset = emptyCell := by
  have one : column.cellCount = 1 := by
    cases column <;> first | rfl | exact absurd rfl single
  rw [cells, one]
  exact Html.concat_singleton emptyCell

end Skeleton

namespace Table

/-- One block of code for each of some values. -/
theorem bares_blocks {α : Type} (shown : α → Json.Ordered) (values : List α) :
    (Html.concat (values.map fun a => Html.codeBlock (shown a))).Bares
      (.concat (List.replicate values.length Skeleton.codeBlock)) := by
  rw [← List.map_const']
  apply Html.bares_concat
  intro a _
  exact bares_codeBlock (shown a)

theorem bares_missing (column : Column) :
    (Html.concat (List.replicate column.cellCount (plainCell Html.notSet))).Bares
      (.concat (List.replicate column.cellCount Skeleton.emptyCell)) := by
  have each : ∀ _u ∈ List.replicate column.cellCount (),
      (plainCell Html.notSet).Bares Skeleton.emptyCell :=
    fun _ _ => bares_marker "(not set)"
  have cell := Html.bares_concat (f := fun _ => plainCell Html.notSet)
    (g := fun _ => Skeleton.emptyCell) each
  rwa [List.map_replicate, List.map_replicate] at cell

/-- The cells of a column have the tags that the shape of the value says. -/
theorem bares_cells (view : View) (zone : Zone) {row : Row} (typed : row.Typed)
    (column : Column) :
    (cells view.spec zone row column).Bares
      (Skeleton.cells view.spec column (row.cell column).shape) := by
  have kind := typed column
  unfold cells
  cases value : row.cell column with
  | text s =>
    have is_text : column.kind = .text := kind .text (by rw [value]; rfl)
    simp only [Html.shownText_eq, CellValue.shape]
    split
    · rw [Skeleton.cells_unset_of_single (by simp [is_text])]
      exact bares_marker "(not set)"
    · rw [Skeleton.cells_filled_plain (by simp [is_text]) (by simp [is_text])]
      exact bares_plainCell (Html.bares_ofText s)
  | instant n =>
    have is_instant : column.kind = .instant := kind .instant (by rw [value]; rfl)
    rw [CellValue.shape, Skeleton.cells_filled_plain (by simp [is_instant]) (by simp [is_instant])]
    exact bares_plainCell (Html.bares_ofText _)
  | count n =>
    have is_count : column.kind = .count := kind .count (by rw [value]; rfl)
    rw [CellValue.shape, Skeleton.cells_filled_single (by simp [is_count])]
    exact bares_countCell view.spec column row.key none n
  | latencyCounts counts =>
    have is_counts : column.kind = .latencyCounts := kind .latencyCounts (by rw [value]; rfl)
    rw [CellValue.shape, Skeleton.cells, Skeleton.places, if_pos is_counts, List.map_map]
    apply Html.bares_concat
    intro b _
    exact bares_countCell view.spec column row.key (some b) counts[b.index]
  | attributes values =>
    obtain ⟨members, sorted⟩ := values
    cases members with
    | nil => exact bares_marker "Empty"
    | cons member rest =>
      rw [CellValue.shape]
      exact bares_plainCell (Html.concat_singleton Skeleton.codeBlock ▸ bares_codeBlock _)
  | events list =>
    cases list with
    | nil => exact bares_marker "Empty"
    | cons e rest => exact bares_plainCell (bares_blocks (shownEvent zone) (e :: rest))
  | missing => exact bares_missing column

theorem bares_row (view : View) (zone : Zone) {r : Row} (typed : r.Typed) :
    (row view.spec zone r).Bares
      (Skeleton.row view.spec (view.spec.columns.map fun column => (r.cell column).shape)) := by
  rw [Skeleton.row, List.zipWith_map_right, List.zipWith_self]
  refine Html.Bares.node ?_ rfl
  apply Html.bares_concat
  intro column _
  exact bares_cells view zone typed column

/-- The whole text of a table is rendered markup. -/
theorem html_render (view : View) (zone : Zone) (rs : List Row) :
    (render view zone rs).html =
      (headerHtml view.spec ++ Html.node .tbody [] (rows view.spec zone rs)).render := by
  simp [html, render, Html.render, String.ofList_append, String.append_assoc]

theorem bares_table (view : View) (zone : Zone) (records : List Record) :
    (headerHtml view.spec ++
      Html.node .tbody [] (rows view.spec zone (records.map Record.toRow))).Bares
      (Skeleton.table view (records.map (Record.shape view))) := by
  have header : (headerHtml view.spec).Bares (headerHtml view.spec) := by
    apply Html.bares_of_rowless rfl
    cases view <;> decide
  refine header.append (Html.Bares.node ?_ rfl)
  rw [rows, List.map_map, List.map_map]
  apply Html.bares_concat
  intro r _
  exact bares_row view zone r.toRow_typed

end Table

end SpanDashboard
