import SpanDashboard.Proofs.Depth
import SpanDashboard.Proofs.Markup
import SpanDashboard.Proofs.RoundTrip
import SpanDashboard.Proofs.Timestamps

/-!
# Rows read back

What `render_row` says of a sampled span can be read from the text of the row and that of the
header. Each cell stands under the label of a column, and the column tells how the cell is to be
read (`readCell?`): as a text, a number, a code, a time, or blocks of code with structured values.
What is read is what the span has in this column (`SpanDetail.reading`), with times down to the
millisecond and values cut off at the depth that is shown.
-/

set_option autoImplicit false

namespace SpanDashboard

theorem mapM_map_eq_some {α β γ : Type} {read : β → Option γ} {write : α → β} {value : α → γ}
    {as : List α} (each : ∀ a ∈ as, read (write a) = some (value a)) :
    (as.map write).mapM read = some (as.map value) := by
  induction as with
  | nil => rfl
  | cons a rest ih =>
    obtain ⟨first, others⟩ := List.forall_mem_cons.1 each
    rw [List.map_cons, List.mapM_cons, first, ih others]
    rfl

/-! ## Cells -/

namespace Markup

/-- The text that some pieces show, if there are no tags among them. -/
def text? (content : List Piece) : Option String :=
  (content.mapM Piece.char?).map fun cs => String.ofList (Entity.unescapeFrom 0 cs)

/-- The structured values in the blocks of code among some pieces. -/
def blocks? (content : List Piece) : Option (List Json) :=
  (elements .code content).mapM fun block => (text? block.2).bind Json.parse?

/-- A text is read back. -/
theorem text?_ofText (s : String) : text? (Html.ofText s).pieces = some s := by
  have chars : ((Entity.escapeChars s.toList).map Piece.char).mapM Piece.char? =
      some ((Entity.escapeChars s.toList).map id) := mapM_map_eq_some fun _ _ => rfl
  rw [text?, Html.pieces_ofText, chars, List.map_id, Option.map_some,
    Entity.unescapeFrom_escapeChars, String.ofList_toList]

/-- No text looks like a marker. -/
theorem pieces_ofText_ne_marker (s remark : String) :
    (Html.ofText s).pieces ≠ (Html.marker remark).pieces := by
  rw [Html.pieces_ofText, Html.marker, Html.pieces_node]
  cases Entity.escapeChars s.toList <;> simp

theorem elements_codeBlocks (vs : List Json.Ordered) (later : List Piece) :
    elements .code ((Html.concat (vs.map Html.codeBlock)).pieces ++ later) =
      vs.map (fun v => (Tag.code.opening [], (Html.ofText v.json.shown).pieces)) ++
        elements .code later := by
  induction vs with
  | nil => rfl
  | cons v rest ih =>
    rw [Html.pieces_concat, List.map_cons, List.flatMap_cons, ← Html.pieces_concat,
      List.append_assoc, Html.codeBlock, Html.pieces_node, List.cons_append,
      elements_other rfl, List.append_assoc, Html.elements_node rfl, List.singleton_append,
      elements_other rfl, ih]
    rfl

/-- Structured values are read back down to the eighth level. -/
theorem blocks?_codeBlocks {vs : List Json.Ordered} (whole : ∀ v ∈ vs, v.json.Whole) :
    blocks? (Html.concat (vs.map Html.codeBlock)).pieces =
      some (vs.map fun v => v.json.downTo 8) := by
  have found := elements_codeBlocks vs []
  rw [List.append_nil, elements, List.append_nil] at found
  rw [blocks?, found]
  refine mapM_map_eq_some fun v member => ?_
  rw [text?_ofText, Option.bind_some, Json.parse?_shown v (whole v member),
    Json.bounded_eq_downTo (Nat.zero_add 8)]

end Markup

/-! ## What is read -/

/-- What can be read of an event. -/
structure EventReading where
  name : String
  /-- The milliseconds since the start of 1970 in UTC. -/
  milliseconds : Int
  attributes : Json

/-- What can be read of a value. -/
inductive CellReading where
  | text (s : String)
  | notSet
  | number (n : Int)
  | status (code : StatusCode)
  /-- The milliseconds since the start of 1970 in UTC. -/
  | instant (milliseconds : Int)
  | attributes (value : Json)
  | events (list : List EventReading)
  /-- There are no attributes, or no events. -/
  | empty

/-- What can be read of an event: its time down to the millisecond, and the upper levels of its
attributes, of which the event itself is one more. -/
def SpanEvent.reading (e : SpanEvent) : EventReading :=
  ⟨e.name, e.timestamp.toInt / 1000000, (Json.object e.attributes.members).downTo 7⟩

/-- What can be read of a text: the text, or that it is blank. -/
def CellReading.ofText (s : String) : CellReading :=
  if Text.IsWhite s then .notSet else .text s

/-- What can be read of a span in a column. -/
def SpanDetail.reading (r : SpanDetail) : Column → CellReading
  | .spanId => .ofText r.spanId
  | .parentId => .ofText r.parentId
  | .traceId => .ofText r.traceId
  | .start => .instant (r.start.toInt / 1000000)
  | .duration => (r.duration.map fun n => .number n.toInt).getD .notSet
  | .status => (r.status.map .status).getD .notSet
  | .description => .ofText r.description
  | .attributes =>
    match r.attributes.members with
    | [] => .empty
    | members => .attributes ((Json.object members).downTo 8)
  | .events =>
    match r.events with
    | [] => .empty
    | list => .events (list.map SpanEvent.reading)
  | .name | .errorCount | .runningCount | .latencyCounts => .notSet

/-! ## How it is read -/

/-- Reads an event. -/
def EventReading.ofJson? (v : Json) : Option EventReading :=
  match v.member? "name", v.member? "timestamp", v.member? "attributes" with
  | some (.string name), some (.string time), some attributes =>
    (Timestamp.read? time.toList).map fun f => ⟨name, f.milliseconds, attributes⟩
  | _, _, _ => none

namespace CellReading

/-- Reads a whole number. -/
def ofNumber? (s : String) : Option CellReading :=
  match Json.parse? s with
  | some (.int n) => some (.number n)
  | _ => none

/-- Reads a cell that has a time. -/
def ofInstant? (content : List Piece) : Option CellReading :=
  (Markup.text? content).bind fun s =>
    (Timestamp.read? s.toList).map fun f => .instant f.milliseconds

/-- Reads a cell that has a text, or the marker for a value that is not set. -/
def ofSet? (read : String → Option CellReading) (content : List Piece) : Option CellReading :=
  if content = Html.notSet.pieces then some .notSet else (Markup.text? content).bind read

/-- Reads a cell that has blocks of code, or the marker for no elements. -/
def ofBlocks? (read : List Json → Option CellReading) (content : List Piece) : Option CellReading :=
  if content = Html.nothing.pieces then some .empty else (Markup.blocks? content).bind read

end CellReading

/-- Reads a cell of a column. -/
def readCell? (column : Column) (content : List Piece) : Option CellReading :=
  match column with
  | .spanId | .parentId | .traceId | .description =>
    CellReading.ofSet? (fun s => some (.text s)) content
  | .duration => CellReading.ofSet? CellReading.ofNumber? content
  | .status => CellReading.ofSet? (fun s => (StatusCode.ofName? s).map .status) content
  | .start => CellReading.ofInstant? content
  | .attributes =>
    CellReading.ofBlocks? (fun vs => vs.head?.map .attributes) content
  | .events =>
    CellReading.ofBlocks? (fun vs => (vs.mapM EventReading.ofJson?).map .events) content
  | .name | .errorCount | .runningCount | .latencyCounts => none

/-- Reads a row under a header: the label above each cell says which column it is in. -/
def readRow? (header row : String) : Option (List (Column × CellReading)) :=
  let labels := Markup.elements .th (Markup.cut header)
  let cells := Markup.elements .td (Markup.cut row)
  if labels.length = cells.length then
    (labels.zip cells).mapM fun entry => do
      let column ← (Markup.text? entry.1.2).bind Column.ofId?
      let reading ← readCell? column entry.2.2
      some (column, reading)
  else none

/-! ## Cells read back -/

namespace CellReading

variable {read : String → Option CellReading}

/-- A text is read if there is something to see in it. -/
theorem ofSet?_shownText (s : String) :
    ofSet? read (Html.shownText s).pieces = if Text.IsWhite s then some .notSet else read s := by
  rw [Html.shownText_eq]
  split
  case isTrue => rw [ofSet?, if_pos rfl]
  case isFalse =>
    have unmarked : (Html.ofText s).pieces ≠ Html.notSet.pieces :=
      Markup.pieces_ofText_ne_marker s _
    rw [ofSet?, if_neg unmarked, Markup.text?_ofText, Option.bind_some]

theorem ofSet?_notSet : ofSet? read Html.notSet.pieces = some .notSet :=
  if_pos rfl

theorem ofBlocks?_nothing {read : List Json → Option CellReading} :
    ofBlocks? read Html.nothing.pieces = some .empty :=
  if_pos rfl

/-- Structured values are read. -/
theorem ofBlocks?_codeBlocks {read : List Json → Option CellReading} {v : Json.Ordered}
    {rest : List Json.Ordered} (whole : ∀ w ∈ v :: rest, w.json.Whole) :
    ofBlocks? read (Html.concat ((v :: rest).map Html.codeBlock)).pieces =
      read ((v :: rest).map fun w => w.json.downTo 8) := by
  have unmarked : (Html.concat ((v :: rest).map Html.codeBlock)).pieces ≠ Html.nothing.pieces := by
    rw [Html.pieces_concat, List.map_cons, List.flatMap_cons, Html.codeBlock, Html.pieces_node,
      Html.nothing, Html.marker, Html.pieces_node]
    intro same
    have first := (List.cons.inj same).1
    simp only [Piece.tag.injEq] at first
    exact absurd first (by decide)
  rw [ofBlocks?, if_neg unmarked, Markup.blocks?_codeBlocks whole, Option.bind_some]

end CellReading

/-- A number is no blank text. -/
theorem Numeral.not_isWhite_intText (n : Int) : ¬ Text.IsWhite (intText n) := by
  obtain ⟨c, member, digit⟩ : ∃ c ∈ ofInt n, c.isDigit = true := by
    cases n with
    | ofNat n =>
      obtain ⟨c, rest, written⟩ := List.exists_cons_of_ne_nil (ofNat_ne_nil n)
      have member : c ∈ ofNat n := written ▸ List.mem_cons_self
      exact ⟨c, member, isDigit_of_mem_ofNat member⟩
    | negSucc n =>
      obtain ⟨c, rest, written⟩ := List.exists_cons_of_ne_nil (ofNat_ne_nil (n + 1))
      have member : c ∈ ofNat (n + 1) := written ▸ List.mem_cons_self
      exact ⟨c, List.mem_cons_of_mem _ member, isDigit_of_mem_ofNat member⟩
  have visible : c.toNat ∉ Text.whiteSpace := by
    obtain ⟨low, high⟩ : 48 ≤ c.toNat ∧ c.toNat ≤ 57 := Char.isDigit_iff_toNat.1 digit
    simp [Text.whiteSpace]
    omega
  rw [Text.IsWhite, intText, String.toList_ofList]
  exact fun white => visible (white c member)

theorem CellReading.ofNumber?_intText {n : Int} (low : -2 ^ 63 ≤ n) (high : n < 2 ^ 64) :
    ofNumber? (Numeral.intText n) = some (.number n) := by
  have written : (Json.int n).compact = Numeral.intText n := by
    rw [Json.compact, Json.chars, Numeral.intText]
  have read := Json.parse?_compact (.int low high) (Nat.zero_le _)
  rw [written] at read
  rw [ofNumber?, read]
  rfl

/-- An instant is read from its text. -/
theorem Timestamp.read?_text {z : Zone} (near : z.offsetMinutes.natAbs < 1440) (n : Int64) :
    ∃ f, read? (text z n.toInt).toList = some f ∧ f.milliseconds = n.toInt / 1000000 := by
  refine ⟨fields z n.toInt, ?_, milliseconds_fields z n.toInt⟩
  rw [text, String.toList_ofList, read?_chars near n.le_toInt n.toInt_lt]

theorem CellReading.ofInstant?_text {z : Zone} (near : z.offsetMinutes.natAbs < 1440) (n : Int64) :
    ofInstant? (Html.ofText (Timestamp.text z n.toInt)).pieces =
      some (.instant (n.toInt / 1000000)) := by
  obtain ⟨f, read, instant⟩ := Timestamp.read?_text near n
  rw [ofInstant?, Markup.text?_ofText, Option.bind_some, read, Option.map_some, instant]

/-- If the numbers of an event are whole, so are those of the value that is shown of it. -/
theorem Attributes.Whole.shownEvent {e : SpanEvent} (whole : e.attributes.Whole) (zone : Zone) :
    (Table.shownEvent zone e).json.Whole := by
  refine .object ?_
  simp only [List.forall_mem_cons]
  exact ⟨whole, .string _, .string _, List.forall_mem_nil _⟩

/-- An event is read back from the value that is shown of it. -/
theorem SpanEvent.ofJson?_shownEvent {zone : Zone} (near : zone.offsetMinutes.natAbs < 1440)
    (e : SpanEvent) :
    EventReading.ofJson? ((Table.shownEvent zone e).json.downTo 8) = some e.reading := by
  obtain ⟨f, read, instant⟩ := Timestamp.read?_text near e.timestamp
  have attributes : ((Table.shownEvent zone e).json.downTo 8).member? "attributes" =
      some ((Json.object e.attributes.members).downTo 7) := rfl
  have name : ((Table.shownEvent zone e).json.downTo 8).member? "name" =
      some (.string e.name) := rfl
  have time : ((Table.shownEvent zone e).json.downTo 8).member? "timestamp" =
      some (.string (Timestamp.text zone e.timestamp.toInt)) := rfl
  rw [EventReading.ofJson?, attributes, name, time]
  simp only [read, Option.map_some, instant]
  rfl

namespace Table

/-- What is in the only cell of a value. -/
def content (zone : Zone) : CellValue → Html
  | .text s => .shownText s
  | .instant n => .ofText (Timestamp.text zone n.toInt)
  | .count n => .ofText (Numeral.text n.toNat)
  | .attributes ⟨[], _⟩ | .events [] => .nothing
  | .attributes values => .concat ([values.object].map .codeBlock)
  | .events list => .concat ((list.map (shownEvent zone)).map .codeBlock)
  | .latencyCounts _ | .missing => .notSet

/-- A detail has one cell in each column of its views. -/
theorem cells_detail (spec : ViewSpec) (zone : Zone) (r : SpanDetail) {column : Column}
    (single : column ≠ .latencyCounts) :
    cells spec zone r.toRow column = plainCell (content zone (r.toRow.cell column)) := by
  obtain ⟨_, _, _, _, _, duration, status, attributes, events⟩ := r
  cases column with
  | latencyCounts => exact absurd rfl single
  | duration => cases duration <;> rfl
  | status => cases status <;> rfl
  | attributes =>
    obtain ⟨members, sorted⟩ := attributes
    cases members <;> rfl
  | events =>
    cases events with
    | nil => rfl
    | cons e rest => simp [cells, content, SpanDetail.toRow, Function.comp_def]
  | _ => rfl

theorem count_content (zone : Zone) (value : CellValue) : (content zone value).count .td = 0 := by
  have blocks (vs : List Json.Ordered) : (Html.concat (vs.map Html.codeBlock)).count .td = 0 := by
    refine (Html.count_concat_const fun m member => ?_).trans (Nat.mul_zero _)
    obtain ⟨v, -, rfl⟩ := List.mem_map.1 member
    rfl
  cases value with
  | text s => exact Html.count_shownText s
  | attributes values =>
    obtain ⟨members, sorted⟩ := values
    cases members with
    | nil => rfl
    | cons m rest => exact blocks _
  | events list =>
    cases list with
    | nil => rfl
    | cons e rest => exact blocks _
  | _ => rfl

/-- The cells in the row of a detail, as they are read back. -/
theorem elements_row_detail (spec : ViewSpec) (single : .latencyCounts ∉ spec.columns) (zone : Zone)
    (r : SpanDetail) :
    Markup.elements .td (Markup.cut (row spec zone r.toRow).render) =
      spec.columns.map fun column =>
        (Tag.td.opening [], (content zone (r.toRow.cell column)).pieces) := by
  have plain : spec.columns.map (cells spec zone r.toRow) = spec.columns.map fun column =>
      Html.node .td [] (content zone (r.toRow.cell column)) :=
    List.map_congr_left fun column member =>
      cells_detail spec zone r fun same => single (same ▸ member)
  have found := Html.elements_concat .td (fun _ => [])
    (fun column => content zone (r.toRow.cell column))
    (fun column (_ : column ∈ spec.columns) => count_content zone _) [.tag Tag.tr.closing]
  rw [row, plain, Html.cut_render, Html.pieces_node, Markup.elements_other rfl, found,
    Markup.elements_other rfl, Markup.elements, List.append_nil]

end Table

namespace SpanDetail

/-- A text is read back from the cell that shows it. -/
theorem ofSet?_text (s : String) :
    CellReading.ofSet? (fun s => some (.text s)) (Html.shownText s).pieces =
      some (.ofText s) := by
  rw [CellReading.ofSet?_shownText, CellReading.ofText]
  split <;> rfl

/-- A cell is read back. -/
theorem readCell?_content {zone : Zone} (near : zone.offsetMinutes.natAbs < 1440) {r : SpanDetail}
    (whole : r.attributes.Whole) (each : ∀ e ∈ r.events, e.attributes.Whole) {column : Column}
    (own : column ∉ View.overview.spec.columns) :
    readCell? column (Table.content zone (r.toRow.cell column)).pieces =
      some (r.reading column) := by
  obtain ⟨spanId, parentId, traceId, start, description, duration, status, attributes, events⟩ := r
  cases column with
  | name => exact absurd own (by decide)
  | errorCount => exact absurd own (by decide)
  | runningCount => exact absurd own (by decide)
  | latencyCounts => exact absurd own (by decide)
  | spanId => exact ofSet?_text spanId
  | parentId => exact ofSet?_text parentId
  | traceId => exact ofSet?_text traceId
  | description => exact ofSet?_text description
  | start => exact CellReading.ofInstant?_text near start
  | duration =>
    cases duration with
    | none => exact CellReading.ofSet?_notSet
    | some n =>
      refine (CellReading.ofSet?_shownText _).trans ?_
      rw [if_neg (Numeral.not_isWhite_intText _)]
      exact CellReading.ofNumber?_intText n.le_toInt (by have := n.toInt_lt; omega)
  | status =>
    cases status with
    | none => exact CellReading.ofSet?_notSet
    | some code =>
      have visible : ¬ Text.IsWhite code.name := by cases code <;> decide
      refine (CellReading.ofSet?_shownText _).trans ?_
      rw [if_neg visible, StatusCode.ofName?_name]
      rfl
  | attributes =>
    obtain ⟨members, sorted⟩ := attributes
    cases members with
    | nil => exact CellReading.ofBlocks?_nothing
    | cons m rest =>
      have all : ∀ v ∈ [Attributes.object ⟨m :: rest, sorted⟩], v.json.Whole :=
        List.forall_mem_singleton.2 whole
      exact (CellReading.ofBlocks?_codeBlocks all).trans rfl
  | events =>
    cases events with
    | nil => exact CellReading.ofBlocks?_nothing
    | cons e rest =>
      have values : ∀ v ∈ (e :: rest).map (Table.shownEvent zone), v.json.Whole := by
        intro v member
        obtain ⟨e, inside, rfl⟩ := List.mem_map.1 member
        exact (each e inside).shownEvent zone
      refine (CellReading.ofBlocks?_codeBlocks values).trans ?_
      have read : (((e :: rest).map (Table.shownEvent zone)).map fun v => v.json.downTo 8).mapM
          EventReading.ofJson? = some ((e :: rest).map SpanEvent.reading) := by
        rw [List.map_map]
        exact mapM_map_eq_some fun e _ => SpanEvent.ofJson?_shownEvent near e
      rw [← List.map_cons, read]
      rfl

/-- The columns of a detail view are its own, and they are its labels. -/
theorem columns_detail {view : View} (detail : view ≠ .overview) :
    (∀ column ∈ view.spec.columns, column ∉ View.overview.spec.columns) ∧
      view.spec.labels = view.spec.columns.map Column.id := by
  cases view with
  | overview => exact absurd rfl detail
  | error => decide
  | running => decide
  | latency => decide

/-- A row is read back. -/
theorem readRow?_row {view : View} (detail : view ≠ .overview) {zone : Zone}
    (near : zone.offsetMinutes.natAbs < 1440) {r : SpanDetail} (whole : r.attributes.Whole)
    (each : ∀ e ∈ r.events, e.attributes.Whole) :
    readRow? (Table.headerHtml view.spec).render (Table.row view.spec zone r.toRow).render =
      some (view.spec.columns.map fun column => (column, r.reading column)) := by
  obtain ⟨own, labelled⟩ := columns_detail detail
  have single : .latencyCounts ∉ view.spec.columns := fun member => own _ member (by decide)
  simp only [readRow?, Table.elements_header, Table.elements_row_detail view.spec single, labelled,
    List.map_map, List.length_map, if_true, List.zip_map']
  refine mapM_map_eq_some fun column member => ?_
  simp only [Function.comp_apply, Markup.text?_ofText, Option.bind_eq_bind, Option.bind_some,
    Column.ofId?_id, readCell?_content near whole each (own column member)]

/-- **A row of a detail view can be read back.** Each cell stands under the label of its column, and
from the texts of the row and of the header one reads exactly what the span has in the columns of
the view. So two spans with the same row agree in everything that is shown: in their texts, unless
these are blank, in the duration, the status and the events, and in the times down to the
millisecond and the attributes down to the depth that is shown. -/
theorem reads_back {view : View} (detail : view ≠ .overview) {zone : Zone}
    (near : zone.offsetMinutes.natAbs < 1440) (r : SpanDetail) (whole : r.attributes.Whole)
    (each : ∀ e ∈ r.events, e.attributes.Whole) :
    readRow? (Table.headerHtml view.spec).render (Table.row view.spec zone r.toRow).render =
      some (view.spec.columns.map fun column => (column, r.reading column)) ∧
    ∀ other : SpanDetail, other.attributes.Whole → (∀ e ∈ other.events, e.attributes.Whole) →
      (Table.row view.spec zone other.toRow).render = (Table.row view.spec zone r.toRow).render →
      ∀ column ∈ view.spec.columns, other.reading column = r.reading column := by
  have read := fun (r : SpanDetail) (whole : r.attributes.Whole)
    (each : ∀ e ∈ r.events, e.attributes.Whole) => readRow?_row detail near whole each
  refine ⟨read r whole each, fun other whole_other each_other same => ?_⟩
  have readings := read other whole_other each_other
  rw [same, read r whole each] at readings
  intro column member
  exact (Prod.mk.inj (List.map_inj_left.1 (Option.some.inj readings) column member)).2.symm

/-- A running span with a blank description, no attributes and an event. -/
theorem reads_back_of_event :
    let e : SpanEvent := ⟨"retry", -1, .ofMembers [("after", .array [.int 5])]⟩
    let r : SpanDetail := ⟨"1", "<0>", "", 1500000, " ", none, none, .empty, [e]⟩
    readRow? (Table.headerHtml View.running.spec).render
        (Table.row View.running.spec .utc r.toRow).render =
      some [(.spanId, .text "1"), (.parentId, .text "<0>"), (.traceId, .notSet),
        (.start, .instant 1), (.description, .notSet), (.attributes, .empty),
        (.events, .events [⟨"retry", -1, .object [("after", .array [.int 5])]⟩])] := by
  intro e r
  have nested : e.attributes.Whole :=
    Attributes.whole_ofMembers (List.forall_mem_singleton.2
      (.array (List.forall_mem_singleton.2 (.int (by decide) (by decide)))))
  have detail : View.running ≠ .overview := nofun
  have near : Zone.utc.offsetMinutes.natAbs < 1440 := by decide
  obtain ⟨read, -⟩ := reads_back detail near r Attributes.whole_empty
    (List.forall_mem_singleton.2 nested)
  have columns : View.running.spec.columns.map (fun column => (column, r.reading column)) =
      [(.spanId, .ofText "1"), (.parentId, .ofText "<0>"), (.traceId, .ofText ""),
        (.start, .instant (r.start.toInt / 1000000)), (.description, .ofText " "),
        (.attributes, .empty), (.events, .events [e.reading])] := rfl
  have id : CellReading.ofText "1" = .text "1" := if_neg (by decide)
  have parent : CellReading.ofText "<0>" = .text "<0>" := if_neg (by decide)
  have trace : CellReading.ofText "" = .notSet := if_pos (by decide)
  have description : CellReading.ofText " " = .notSet := if_pos (by decide)
  have start : r.start.toInt / 1000000 = 1 := by decide
  have time : e.timestamp.toInt / 1000000 = -1 := by decide
  rw [read, columns, id, parent, trace, description, SpanEvent.reading, start, time]
  rfl

end SpanDetail

end SpanDashboard
