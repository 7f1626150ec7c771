import Mathlib.Data.List.Forall2
import SpanDashboard.Page.Click
import SpanDashboard.Proofs.Account
import SpanDashboard.Proofs.Markup

/-!
# Clicks on rendered cells

The attributes of a tag are read back from its text, whatever their values are
(`attributes_opening`). So `cell_click_from_event` decodes a click on a cell of the overview to the
cell that `clickable_td` rendered, with the span name of the row; what the cell shows, what the
header above it says, and what the click asks for and puts into the subheading all belong to this
cell.
-/

set_option autoImplicit false

namespace SpanDashboard

namespace Markup

/-- How far a tag has been read: between two attributes, in a name, or in the value of a name. What
has been read comes with its last character first. -/
inductive Reading where
  | between
  | name (read : List Char)
  | value (name read : List Char)

/-- Reads the attributes of a tag. A value stands between apostrophes, and its entities are read
back. -/
def attributesFrom : Reading → List Char → List (String × String)
  | _, [] => []
  | .between, c :: rest => attributesFrom (if c = ' ' then .name [] else .between) rest
  | .name read, c :: rest =>
    if c = '\'' then attributesFrom (.value read.reverse []) rest
    else attributesFrom (.name (if c = '=' then read else c :: read)) rest
  | .value name read, c :: rest =>
    if c = '\'' then
      (String.ofList name, String.ofList (Entity.unescapeFrom 0 read.reverse)) ::
        attributesFrom .between rest
    else attributesFrom (.value name (c :: read)) rest

/-- The attributes of a tag. -/
def attributes (inside : List Char) : List (String × String) :=
  attributesFrom .between inside

theorem attributesFrom_between {s : List Char} (no_space : ∀ c ∈ s, c ≠ ' ') (rest : List Char) :
    attributesFrom .between (s ++ rest) = attributesFrom .between rest := by
  induction s with
  | nil => rfl
  | cons c s ih =>
    obtain ⟨first, others⟩ := List.forall_mem_cons.1 no_space
    rw [List.cons_append, attributesFrom, if_neg first, ih others]

theorem attributesFrom_name {s : List Char} (plain : ∀ c ∈ s, c ≠ '\'' ∧ c ≠ '=')
    (read rest : List Char) :
    attributesFrom (.name read) (s ++ rest) = attributesFrom (.name (s.reverse ++ read)) rest := by
  induction s generalizing read with
  | nil => rfl
  | cons c s ih =>
    obtain ⟨⟨unquoted, unequal⟩, others⟩ := List.forall_mem_cons.1 plain
    rw [List.cons_append, attributesFrom, if_neg unquoted, if_neg unequal, ih others]
    simp

theorem attributesFrom_value {s : List Char} (unquoted : ∀ c ∈ s, c ≠ '\'')
    (name read rest : List Char) :
    attributesFrom (.value name read) (s ++ rest) =
      attributesFrom (.value name (s.reverse ++ read)) rest := by
  induction s generalizing read with
  | nil => rfl
  | cons c s ih =>
    obtain ⟨first, others⟩ := List.forall_mem_cons.1 unquoted
    rw [List.cons_append, attributesFrom, if_neg first, ih others]
    simp

/-- Rendered attributes are read back. -/
theorem attributesFrom_attributeChars (given : List (Attribute × String)) :
    attributesFrom .between (Html.attributeChars given) =
      given.map fun a => (a.1.name, a.2) := by
  induction given with
  | nil => rfl
  | cons a rest ih =>
    have plain : ∀ c ∈ a.1.name.toList, c ≠ '\'' ∧ c ≠ '=' := by
      intro c name
      constructor <;> rintro rfl <;>
        exact Attribute.not_separator_of_mem_name name (by decide)
    have unquoted : ∀ c ∈ Entity.escapeChars a.2.toList, c ≠ '\'' := by
      rintro c member rfl
      exact Entity.not_delimiter_of_mem_escapeChars member (by decide)
    rw [Html.attributeChars_cons]
    simp only [List.cons_append, List.append_assoc, List.nil_append]
    rw [attributesFrom, if_pos rfl, attributesFrom_name plain, attributesFrom,
      if_neg (by decide), if_pos rfl, attributesFrom, if_pos rfl, attributesFrom_value unquoted,
      attributesFrom, if_pos rfl, ih]
    simp [Entity.unescapeFrom_escapeChars]

/-- The attributes of an opening tag. -/
theorem attributes_opening (tag : Tag) (given : List (Attribute × String)) :
    attributes (tag.opening given) = given.map fun a => (a.1.name, a.2) := by
  have no_space : ∀ c ∈ tag.name.toList, c ≠ ' ' := by
    rintro c name rfl
    exact Tag.not_separator_of_mem_name name (by decide)
  rw [attributes, Tag.opening, attributesFrom_between no_space, attributesFrom_attributeChars]

end Markup

namespace PageNode

/-- The element that a tag opens, as a click sees it. -/
def ofTag (inside : List Char) : PageNode :=
  let attributes := Markup.attributes inside
  ⟨String.ofList (inside.takeWhile (· ≠ ' ')),
    (attributes.lookup Attribute.style.name).getD "", attributes⟩

theorem ofTag_opening (tag : Tag) (given : List (Attribute × String)) :
    ofTag (tag.opening given) =
      ⟨tag.name, ((given.map fun a => (a.1.name, a.2)).lookup Attribute.style.name).getD "",
        given.map fun a => (a.1.name, a.2)⟩ := by
  rw [ofTag, Markup.attributes_opening, Tag.takeWhile_opening, String.ofList_toList]

/-- A cell that leads on, as a click sees it. -/
theorem ofTag_clickable (column : Column) (key : String) (place : List (Attribute × String)) :
    ofTag (Tag.td.opening ([(.style, "click"), (.column, column.id), (.row, key)] ++ place)) =
      ⟨"td", "click", ("class", "click") :: ("data-column", column.id) :: ("data-row", key) ::
        place.map fun a => (a.1.name, a.2)⟩ := by
  rw [ofTag_opening]
  rfl

theorem not_isClickableCell_plain : ¬ (ofTag (Tag.td.opening [])).isClickableCell = true := by
  rw [ofTag_opening]
  decide

end PageNode

/-! ## The cells of an aggregate -/

namespace OverviewCell

/-- The bucket of a latency cell. -/
def bucket? : OverviewCell → Option LatencyBucket
  | errorCount | runningCount => none
  | latency b => some b

/-- The label above a cell. -/
def label : OverviewCell → String
  | errorCount => "error"
  | runningCount => "running"
  | latency b => b.label

/-- The attributes with which a cell is rendered. -/
def attributes (cell : OverviewCell) (key : String) : List (Attribute × String) :=
  [(.style, "click"), (.column, cell.column.id), (.row, key)] ++
    (cell.bucket?.map fun b => (Attribute.bucket, Numeral.text b.index)).toList

theorem isClickableCell_rendered (cell : OverviewCell) (key : String) :
    (PageNode.ofTag (Tag.td.opening (cell.attributes key))).isClickableCell = true := by
  rw [attributes, PageNode.ofTag_clickable]
  simp only [PageNode.isClickableCell, PageNode.hasClass]
  decide

/-- A rendered cell is read back. -/
theorem ofAttributes_rendered (cell : OverviewCell) :
    ofAttributes cell.column.id (cell.bucket?.map fun b => Numeral.text b.index) = .ok cell := by
  cases cell with
  | errorCount => rfl
  | runningCount => rfl
  | latency b => cases b <;> rfl

end OverviewCell

/-- What an aggregate counts, in the order in which it is shown. -/
def SpanAggregate.counts (r : SpanAggregate) : List (OverviewCell × UInt64) :=
  [(.errorCount, r.errorCount), (.runningCount, r.runningCount)] ++
    LatencyBucket.all.map fun b => (.latency b, r.latencyCounts.get b.index)

namespace Table

/-- The cells in the row of an aggregate: its name, and its counts. -/
theorem row_aggregate (r : SpanAggregate) (zone : Zone) :
    row View.overview.spec zone r.toRow =
      .node .tr [] (plainCell (.shownText r.name) ++
        .concat (r.counts.map fun count =>
          .node .td (count.1.attributes r.name) (.ofText (Numeral.text count.2.toNat)))) := by
  rfl

/-- The cells in the row of an aggregate, as they are read back. -/
theorem elements_row_aggregate (r : SpanAggregate) (zone : Zone) :
    Markup.elements .td (Markup.cut (row View.overview.spec zone r.toRow).render) =
      (Tag.td.opening [], (Html.shownText r.name).pieces) ::
        r.counts.map fun count =>
          (Tag.td.opening (count.1.attributes r.name),
            (Numeral.ofNat count.2.toNat).map .char) := by
  have cellless : ∀ count ∈ r.counts, (Html.ofText (Numeral.text count.2.toNat)).count .td = 0 :=
    fun _ _ => rfl
  have counts := Html.elements_concat .td (fun count => count.1.attributes r.name)
    (fun count => .ofText (Numeral.text count.2.toNat)) cellless [.tag Tag.tr.closing]
  have numerals : ∀ n, (Html.ofText (Numeral.text n)).pieces = (Numeral.ofNat n).map .char := by
    intro n
    rw [Html.pieces_ofText, Numeral.text, String.toList_ofList, Numeral.escapeChars_ofNat]
  rw [row_aggregate, Html.cut_render, Html.pieces_node, Markup.elements_other rfl,
    Html.pieces_append, List.append_assoc, plainCell,
    Html.elements_node (Html.count_shownText r.name), counts, Markup.elements_other rfl,
    Markup.elements, List.append_nil]
  simp only [numerals]

/-- The header cells of the overview, as they are read back. -/
theorem elements_header_overview (r : SpanAggregate) :
    Markup.elements .th (Markup.cut (headerHtml View.overview.spec).render) =
      (Tag.th.opening [], "name".toList.map .char) ::
        r.counts.map fun count =>
          (Tag.th.opening [], (Entity.escapeChars count.1.label.toList).map .char) := by
  rw [elements_header]
  simp only [Html.pieces_ofText]
  rfl

end Table

/-- The cells in the row of an aggregate that lead on, each with the header cell above it. -/
def SpanAggregate.clickable (r : SpanAggregate) (zone : Zone) :
    List ((List Char × List Piece) × (List Char × List Piece)) :=
  ((Markup.elements .th (Markup.cut (Table.render .overview zone [r.toRow]).header)).zip
    (Markup.elements .td (Markup.cut (Table.row View.overview.spec zone r.toRow).render))).filter
    fun pair => (PageNode.ofTag pair.2.1).isClickableCell

namespace SpanAggregate

theorem clickable_eq (r : SpanAggregate) (zone : Zone) :
    r.clickable zone = r.counts.map fun count =>
      ((Tag.th.opening [], (Entity.escapeChars count.1.label.toList).map .char),
        (Tag.td.opening (count.1.attributes r.name), (Numeral.ofNat count.2.toNat).map .char)) := by
  have header : (Table.render .overview zone [r.toRow]).header =
      (Table.headerHtml View.overview.spec).render := rfl
  rw [clickable, header, Table.elements_header_overview r, Table.elements_row_aggregate,
    List.zip_cons_cons, List.filter_cons_of_neg (by exact PageNode.not_isClickableCell_plain),
    List.zip_map', List.filter_map,
    List.filter_eq_self.2 fun count _ => count.1.isClickableCell_rendered r.name]

end SpanAggregate

/-! ## What a click comes to -/

namespace Click

/-- A click in a cell with the attributes of a rendered one. -/
theorem ofTarget?_rendered {target : ClickTarget} {near : PageNode}
    (found : target.cell? = some near) {cell : OverviewCell} {key : String}
    (same : ∀ a ∈ [Attribute.column, .row, .bucket], near.attribute? a =
      (PageNode.ofTag (Tag.td.opening (cell.attributes key))).attribute? a) :
    ofTarget? target = some (.ok ⟨cell, key⟩) := by
  rw [OverviewCell.attributes, PageNode.ofTag_clickable] at same
  have column : near.attribute? .column = some cell.column.id := same .column (by decide)
  have row : near.attribute? .row = some key := same .row (by decide)
  have bucket : near.attribute? .bucket = cell.bucket?.map fun b => Numeral.text b.index := by
    rw [same .bucket (by decide)]
    cases cell <;> rfl
  simp only [ofTarget?, found, column, row, bucket, Option.bind_eq_bind, Option.bind_some,
    OverviewCell.ofAttributes_rendered]
  rfl

end Click

/-- The URL that an effect asks for. -/
def Effect.fetch? : Effect → Option String
  | .fetch _ url => some url
  | .write _ | .completed _ _ _ => none

namespace Run

/-- A reply makes no request. -/
theorem fetches_answer (run : Run) (ticket : Nat) (reply : Reply) :
    (run.session.moment (.answer ticket reply)).effects.filterMap Effect.fetch? = [] := by
  cases waits : run.session.waiting.lookup ticket with
  | none => rw [Session.moment_effects_of_none waits, List.filterMap_nil]
  | some r =>
    obtain ⟨step, -, effects_eq⟩ := Session.moment_effects_of_some waits reply
    simp [effects_eq, Effect.fetch?]

/-- A call for a view makes one request, whatever happens afterwards. -/
theorem fetches_account (run : Run) {call : Call} {view : View} {key : Option DetailKey}
    (target : call.target? = some (view, key)) (later : List Event) :
    ((run.extend (.start call :: later)).account run.calls.length).filterMap Effect.fetch? =
      [run.settings.url (view.path key)] := by
  obtain ⟨r, request, -, effects_eq⟩ := run.begun (Call.container?_of_target target)
  have url_eq : r.url = run.settings.url (view.path key) := by
    rw [Call.request?, target] at request
    rw [← Option.some.inj request]
  have begins : (run.session.moment (.start call)).effects.filterMap Effect.fetch? = [r.url] := by
    simp [effects_eq, Effect.fetch?]
  rw [← url_eq]
  by_cases unanswered : Unanswered run.calls.length later
  · rw [account_unanswered run call unanswered, begins]
  · obtain ⟨between, reply, rest, rfl, silent⟩ := exists_first_reply unanswered
    rw [account_answered run call silent, List.filterMap_append, begins, fetches_answer]
    rfl

end Run

/-- The subheading of a latency bucket: the span name, and below it the label of the bucket. -/
theorem Selection.subheading?_latency (spanName : String) (b : LatencyBucket) (sampleLimit : Nat) :
    ∃ html, (latencyDetail spanName b).subheading? sampleLimit = some html ∧
      Markup.elements .h2 (Markup.cut html) =
        [(Tag.h2.opening [],
          (Entity.escapeChars spanName.toList).map .char ++ .tag ['b', 'r'] ::
            ((Entity.escapeChars b.label.toList).map .char ++
              " Bucket Spans".toList.map .char))] := by
  let words := Html.ofText ((latencyDetail spanName b).remark sampleLimit)
  have heading : (Html.text spanName
      (.lineBreak (.ofText (b.label ++ " Bucket" ++ " Spans")))).pieces =
      (Entity.escapeChars spanName.toList).map .char ++ .tag ['b', 'r'] ::
        ((Entity.escapeChars b.label.toList).map .char ++ " Bucket Spans".toList.map .char) := by
    have plain : Entity.escapeChars " Bucket".toList ++ Entity.escapeChars " Spans".toList =
        " Bucket Spans".toList := rfl
    rw [Html.pieces, Html.pieces, Html.pieces_ofText, String.toList_append, String.toList_append,
      Entity.escapeChars_append, Entity.escapeChars_append, List.append_assoc, plain,
      List.map_append]
  have single : Markup.elements .h2 (Html.node .i [] words).pieces = [] := by
    rw [← List.append_nil (Html.node .i [] words).pieces, Html.elements_pieces rfl]
    rfl
  refine ⟨_, rfl, ?_⟩
  rw [Html.cut_render, Html.pieces_append, Html.elements_node rfl, heading, single]

/-- What a cell with a count comes to, together with the header cell above it. -/
structure SpanAggregate.Opens (r : SpanAggregate) (heading cell : List Char × List Piece)
    (count : OverviewCell × UInt64) : Prop where
  /-- The cell shows the number. -/
  content : cell.2 = (Numeral.ofNat count.2.toNat).map .char
  /-- The header cell shows the label. -/
  headed : heading.2 = (Entity.escapeChars count.1.label.toList).map .char
  /-- A click is decoded to the cell and the span name, and passed on. -/
  decoded : ∀ (target : ClickTarget) (near : PageNode), target.cell? = some near →
    (∀ a ∈ [Attribute.column, .row, .bucket],
      near.attribute? a = (PageNode.ofTag cell.1).attribute? a) →
    Click.ofTarget? target = some (.ok ⟨count.1, r.name⟩) ∧
      Click.routed? target = some ⟨count.1, r.name⟩
  /-- The subheading names a bucket as the header does. -/
  named : ∀ b sampleLimit, count.1 = .latency b →
    ∃ html, (Selection.ofCell count.1 r.name).subheading? sampleLimit = some html ∧
      Markup.elements .h2 (Markup.cut html) =
        [(Tag.h2.opening [],
          (Entity.escapeChars r.name.toList).map .char ++ .tag ['b', 'r'] ::
            (heading.2 ++ " Bucket Spans".toList.map .char))]
  /-- The click asks once for the records of the detail view of the column. -/
  fetched : ∃ view, count.1.column.detailView? = some view ∧
    (Selection.ofCell count.1 r.name).view = view ∧
    ∀ (run : Run) (later : List Event),
      ((run.extend (.start (.activate count.1 r.name) :: later)).account
        run.calls.length).filterMap Effect.fetch? =
        [run.settings.url (view.path (some ⟨r.name, count.1.bucket?⟩))]

namespace SpanAggregate

theorem opens (r : SpanAggregate) (count : OverviewCell × UInt64) :
    r.Opens (Tag.th.opening [], (Entity.escapeChars count.1.label.toList).map .char)
      (Tag.td.opening (count.1.attributes r.name), (Numeral.ofNat count.2.toNat).map .char)
      count where
  content := by dsimp only
  headed := by dsimp only
  decoded target near found same := by
    have decoded := Click.ofTarget?_rendered found same
    exact ⟨decoded, by rw [Click.routed?, decoded]⟩
  named b sampleLimit bucket := by
    rw [bucket]
    dsimp only [OverviewCell.label, Selection.ofCell]
    exact Selection.subheading?_latency r.name b sampleLimit
  fetched := by
    refine ⟨(Selection.ofCell count.1 r.name).view, ?_, rfl, ?_⟩
    · cases count.1 <;> rfl
    · intro run later
      apply run.fetches_account
      cases count.1 <;> rfl

/-- **A cell of the overview leads on to what it shows.** Whatever the name and the counts of an
aggregate are, exactly eleven cells of its row can be clicked. In this order they are those of the
error count, of the running count and of the latency buckets; each of them shows its number, and a
click on it opens the detail view for it and for the span name of the row. -/
theorem clicks_through (r : SpanAggregate) (zone : Zone) :
    (Markup.elements .td (Markup.cut (Table.row View.overview.spec zone r.toRow).render)).filter
        (fun cell => (PageNode.ofTag cell.1).isClickableCell) =
      (r.clickable zone).map Prod.snd ∧
    (r.clickable zone).length = 11 ∧
    List.Forall₂ (fun pair count => r.Opens pair.1 pair.2 count) (r.clickable zone) r.counts := by
  rw [clickable_eq]
  refine ⟨?_, rfl, ?_⟩
  · rw [Table.elements_row_aggregate,
      List.filter_cons_of_neg (by exact PageNode.not_isClickableCell_plain), List.filter_map,
      List.map_map,
      List.filter_eq_self.2 fun count _ => count.1.isClickableCell_rendered r.name]
    rfl
  · rw [List.forall₂_map_left_iff, List.forall₂_same]
    exact fun count _ => r.opens count

end SpanAggregate

end SpanDashboard
