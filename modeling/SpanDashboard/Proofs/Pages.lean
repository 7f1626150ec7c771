import SpanDashboard.Page.Basic
import SpanDashboard.Proofs.Contents

/-!
# Pages show tables

A write of `DomSurface` to a page changes nothing but the element that it names, and not even that
one if the page cannot carry it out (`Page.Confined`). So what has become of an element depends only
on the writes to it (`elements_after`). An element that takes rows holds what the table model holds:
its contents are the table that was put there last, and what has been inserted are the rows that
have been added since (`Holds.after`).
-/

set_option autoImplicit false

namespace SpanDashboard

/-! ## Texts in front of a closing tag -/

namespace Text

/-- Puts a text before the last occurrence of a mark. -/
def putBeforeLast? (mark new : List Char) : List Char → Option (List Char)
  | [] => none
  | c :: rest =>
    match putBeforeLast? mark new rest with
    | some done => some (c :: done)
    | none => if mark.isPrefixOf (c :: rest) then some (new ++ c :: rest) else none

theorem putBeforeLast?_of_shorter {mark : List Char} (new : List Char) {text : List Char}
    (shorter : text.length < mark.length) : putBeforeLast? mark new text = none := by
  induction text with
  | nil => rfl
  | cons c rest ih =>
    have no_mark : mark.isPrefixOf (c :: rest) = false := by
      rw [← Bool.not_eq_true, List.isPrefixOf_iff_prefix]
      intro found
      exact absurd found.length_le (Nat.not_le.2 shorter)
    rw [List.length_cons] at shorter
    rw [putBeforeLast?, ih (by omega), no_mark]
    rfl

/-- A mark at the end of a text is its last occurrence. -/
theorem putBeforeLast?_append {mark : List Char} (nonempty : mark ≠ []) (new text : List Char) :
    putBeforeLast? mark new (text ++ mark) = some (text ++ (new ++ mark)) := by
  induction text with
  | nil =>
    obtain ⟨c, rest, rfl⟩ := List.exists_cons_of_ne_nil nonempty
    have later : putBeforeLast? (c :: rest) new rest = none :=
      putBeforeLast?_of_shorter new (Nat.lt_succ_self _)
    have found : (c :: rest).isPrefixOf (c :: rest) = true :=
      List.isPrefixOf_iff_prefix.2 List.prefix_rfl
    rw [List.nil_append, putBeforeLast?, later, found]
    rfl
  | cons c text ih => rw [List.cons_append, putBeforeLast?, ih, List.cons_append]

end Text

/-! ## One element -/

/-- The rows that a write adds. -/
def Write.rows? : Write → Option String
  | .addRows _ rows => some rows
  | .putTable _ _ | .putHtml _ _ => none

namespace PageElement

/-- Whether rows can be added to the table in an element. -/
def AcceptsRows (e : PageElement) : Prop :=
  e.body = .present ∧ e.insertFails = false

/-- The element after some writes to it. -/
def after (e : PageElement) (ws : List Write) : PageElement :=
  ws.foldl apply e

/-- The contents, with what has been inserted at the end of the table body. -/
def contents? (e : PageElement) : Option String :=
  (Text.putBeforeLast? (Html.closingTag .tbody) e.inserted.toList e.html.toList).map String.ofList

/-- An element that takes no rows stays as it is. -/
theorem apply_addRows_of_not_acceptsRows {e : PageElement} (refuses : ¬ e.AcceptsRows)
    (id rows : String) : e.apply (.addRows id rows) = e :=
  if_neg refuses

theorem AcceptsRows.apply {e : PageElement} (accepts : e.AcceptsRows) (w : Write) :
    (e.apply w).AcceptsRows := by
  cases w with
  | putTable id table => exact accepts
  | putHtml id html => exact accepts
  | addRows id rows =>
    have takes : e.body = .present ∧ e.insertFails = false := accepts
    rw [PageElement.apply, PageElement.addRows, if_pos takes]
    exact accepts

/-- If the model has a table in an element, the contents are some table, and with the inserted rows
it is the one of the model. -/
def Holds (e : PageElement) (shown : Option Table) : Prop :=
  ∀ t ∈ shown, ∃ put : Table, e.html = put.html ∧ t = { put with body := put.body ++ e.inserted }

theorem holds_none (e : PageElement) : e.Holds none := by
  intro t member
  cases member

/-- A write does the same to an element as to the model. -/
theorem Holds.apply {e : PageElement} {shown : Option Table} (holds : e.Holds shown)
    (accepts : e.AcceptsRows) {w : Write} (here : w.id = e.id) :
    (e.apply w).Holds (w.onto e.id shown) := by
  cases w with
  | putTable id table =>
    obtain rfl : id = e.id := here
    rintro t member
    obtain rfl : table = t := by simpa [Write.onto] using member
    exact ⟨table, rfl, by simp [PageElement.apply, putHtml]⟩
  | addRows id rows =>
    obtain rfl : id = e.id := here
    rintro t member
    rw [Write.onto, if_pos rfl] at member
    obtain ⟨before, known, rfl⟩ := Option.map_eq_some_iff.1 member
    obtain ⟨put, html_eq, before_eq⟩ := holds before known
    have takes : e.body = .present ∧ e.insertFails = false := accepts
    rw [PageElement.apply, PageElement.addRows, if_pos takes]
    exact ⟨put, html_eq, by rw [before_eq, String.append_assoc]⟩
  | putHtml id html =>
    obtain rfl : id = e.id := here
    rintro t member
    simp [Write.onto] at member

/-- So do any number of writes. -/
theorem Holds.after {e : PageElement} {shown : Option Table} (holds : e.Holds shown)
    (accepts : e.AcceptsRows) {ws : List Write} (here : ∀ w ∈ ws, w.id = e.id) :
    (e.after ws).Holds (ws.foldl (Write.onto e.id) shown) := by
  induction ws generalizing e shown with
  | nil => exact holds
  | cons w rest ih =>
    obtain ⟨first, others⟩ := List.forall_mem_cons.1 here
    rw [← id_apply e w] at others
    have next := ih (holds.apply accepts first) (accepts.apply w) others
    rw [id_apply] at next
    exact next

/-- The contents of an element that holds a table. -/
theorem Holds.contents?_eq {e : PageElement} {t : Table} (holds : e.Holds (some t)) :
    e.contents? = some t.html := by
  obtain ⟨put, html_eq, rfl⟩ := holds t rfl
  have closing : put.html.toList =
      (put.header ++ String.ofList (Html.openingTag .tbody []) ++ put.body).toList ++
        Html.closingTag .tbody := by
    rw [Table.html, String.toList_append, String.toList_ofList]
  rw [contents?, html_eq, closing, Text.putBeforeLast?_append (by decide)]
  apply congrArg some
  apply String.toList_inj.1
  simp [Table.html]

end PageElement

/-! ## The table model -/

/-- A write to another element does nothing to a table. -/
theorem Write.onto_of_ne {w : Write} {id : String} (elsewhere : w.id ≠ id) (shown : Option Table) :
    w.onto id shown = shown := by
  cases w <;> exact if_neg elsewhere

theorem Write.foldl_onto_filter (id : String) (ws : List Write) (shown : Option Table) :
    (ws.filter (·.id = id)).foldl (Write.onto id) shown = ws.foldl (Write.onto id) shown := by
  induction ws generalizing shown with
  | nil => rfl
  | cons w rest ih =>
    by_cases here : w.id = id
    · rw [List.filter_cons_of_pos (by simpa using here), List.foldl_cons, List.foldl_cons, ih]
    · rw [List.filter_cons_of_neg (by simpa using here), List.foldl_cons, onto_of_ne here, ih]

/-- Where a table has been put and then only tables and rows, there is a table that was put last. -/
theorem Write.exists_last_table {id : String} (first : Table) {more : List Write}
    (here : ∀ w ∈ more, w.id = id) (tables : ∀ html, .putHtml id html ∉ more) :
    ∃ earlier t later, .putTable id first :: more = earlier ++ .putTable id t :: later ∧
      ∀ w ∈ later, ∃ rows, w = .addRows id rows := by
  induction more using List.reverseRecOn with
  | nil => exact ⟨[], first, [], rfl, List.forall_mem_nil _⟩
  | append_singleton before w ih =>
    obtain ⟨here_before, here_last⟩ := List.forall_mem_append.1 here
    have tables_before : ∀ html, .putHtml id html ∉ before := fun html member =>
      tables html (List.mem_append_left _ member)
    obtain ⟨earlier, t, later, split, added⟩ := ih here_before tables_before
    cases w with
    | putTable other table =>
      obtain rfl : other = id := here_last _ List.mem_cons_self
      exact ⟨.putTable other first :: before, table, [], rfl, List.forall_mem_nil _⟩
    | addRows other rows =>
      obtain rfl : other = id := here_last _ List.mem_cons_self
      refine ⟨earlier, t, later ++ [.addRows other rows], ?_, ?_⟩
      · rw [← List.cons_append, split, List.append_assoc, List.cons_append]
      · exact List.forall_mem_append.2 ⟨added, List.forall_mem_singleton.2 ⟨rows, rfl⟩⟩
    | putHtml other html =>
      obtain rfl : other = id := here_last _ List.mem_cons_self
      exact absurd (List.mem_append_right _ List.mem_cons_self) (tables html)

/-- Added rows are put at the end of the body, one after the other. -/
theorem Write.foldl_onto_addRows {id : String} {ws : List Write}
    (added : ∀ w ∈ ws, ∃ rows, w = .addRows id rows) (t : Table) :
    ws.foldl (Write.onto id) (some t) =
      some { t with body := t.body ++ String.join (ws.filterMap Write.rows?) } := by
  induction ws generalizing t with
  | nil => simp
  | cons w rest ih =>
    obtain ⟨⟨rows, rfl⟩, others⟩ := List.forall_mem_cons.1 added
    rw [List.foldl_cons, onto, if_pos rfl, Option.map_some, ih others]
    simp [rows?, String.append_assoc]

/-! ## All elements -/

namespace Page

/-- The page after some writes. -/
def after (p : Page) (ws : List Write) : Page :=
  ws.foldl apply p

/-- A change that does nothing where it would be made does nothing at all. -/
theorem modifyFirst_eq_self {id : String} {change : PageElement → PageElement}
    {es : List PageElement} (idle : ∀ e ∈ es, e.id = id → change e = e) :
    modifyFirst id change es = es := by
  induction es with
  | nil => rfl
  | cons e rest ih =>
    obtain ⟨first, others⟩ := List.forall_mem_cons.1 idle
    rw [modifyFirst]
    split
    case isTrue here => rw [first here]
    case isFalse => rw [ih others]

/-- If no identifier occurs twice, the one element with the identifier is changed. -/
theorem modifyFirst_eq_map {es : List PageElement} (distinct : (es.map PageElement.id).Nodup)
    (id : String) (change : PageElement → PageElement) :
    modifyFirst id change es = es.map fun e => if e.id = id then change e else e := by
  induction es with
  | nil => rfl
  | cons e rest ih =>
    obtain ⟨new, others⟩ := List.nodup_cons.1 distinct
    rw [modifyFirst, List.map_cons]
    split
    case isTrue here =>
      have elsewhere : ∀ other ∈ rest, (if other.id = id then change other else other) = other := by
        intro other member
        refine if_neg fun same => new ?_
        rw [here, ← same]
        exact List.mem_map_of_mem member
      rw [List.map_congr_left elsewhere, List.map_id']
    case isFalse => rw [ih others]

/-- A write that no element takes does nothing. -/
theorem apply_eq_self {p : Page} {w : Write}
    (idle : p.isReachable = true → ∀ e ∈ p.elements, e.id = w.id → e.apply w = e) :
    p.apply w = p := by
  rw [apply]
  split
  case isTrue reachable => rw [modifyFirst_eq_self (idle reachable)]
  case isFalse => rfl

theorem isReachable_apply (p : Page) (w : Write) : (p.apply w).isReachable = p.isReachable := by
  rw [apply]
  split <;> rfl

/-- Identifiers stay distinct. -/
theorem map_id_elements_after (p : Page) (ws : List Write) :
    (p.after ws).elements.map PageElement.id = p.elements.map PageElement.id := by
  induction ws generalizing p with
  | nil => rfl
  | cons w rest ih => exact (ih (p.apply w)).trans (p.map_id_elements_apply w)

/-- What has become of an element depends only on the writes to it. -/
theorem elements_after {p : Page} (reachable : p.isReachable = true)
    (distinct : (p.elements.map PageElement.id).Nodup) (ws : List Write) :
    (p.after ws).elements = p.elements.map fun e => e.after (ws.filter (·.id = e.id)) := by
  induction ws generalizing p with
  | nil => exact (List.map_id' p.elements).symm
  | cons w rest ih =>
    have next := ih (p.isReachable_apply w ▸ reachable) (p.map_id_elements_apply w ▸ distinct)
    have changed : (p.apply w).elements =
        p.elements.map fun e => if e.id = w.id then e.apply w else e := by
      rw [apply, if_pos reachable]
      exact modifyFirst_eq_map distinct w.id _
    rw [after, List.foldl_cons, ← after, next, changed, List.map_map]
    refine List.map_congr_left fun e _ => ?_
    by_cases here : e.id = w.id
    · simp [here, PageElement.after]
    · simp [here, Ne.symm here]

/-- What a write can do to a page. -/
structure Confined (p : Page) (w : Write) : Prop where
  /-- It changes at most one element. -/
  others : ∀ (i : Nat) (e : PageElement), p.elements[i]? = some e → e.id ≠ w.id →
    (p.apply w).elements[i]? = some e
  length_eq : (p.apply w).elements.length = p.elements.length
  /-- It changes nothing but elements. -/
  page_eq : { p.apply w with elements := p.elements } = p
  /-- It does nothing without a window or a document. -/
  unreachable : p.hasWindow = false ∨ p.hasDocument = false → p.apply w = p
  /-- It does nothing without its element. -/
  missing : w.id ∉ p.elements.map PageElement.id → p.apply w = p
  /-- It does nothing if its element takes no rows. -/
  refused : ∀ (id rows : String), w = .addRows id rows →
    (∀ e ∈ p.elements, e.id = id → ¬ e.AcceptsRows) → p.apply w = p

theorem confined {p : Page} (distinct : (p.elements.map PageElement.id).Nodup) (w : Write) :
    p.Confined w where
  others i e found elsewhere := by
    rw [apply]
    split
    case isTrue =>
      rw [modifyFirst_eq_map distinct, List.getElem?_map, found, Option.map_some, if_neg elsewhere]
    case isFalse => exact found
  length_eq := by
    have same := congrArg List.length (p.map_id_elements_apply w)
    rwa [List.length_map, List.length_map] at same
  page_eq := by
    rw [apply]
    split <;> rfl
  unreachable cut_off := by
    refine apply_eq_self fun reachable => ?_
    obtain ⟨window, document⟩ := Bool.and_eq_true_iff.1 reachable
    cases cut_off with
    | inl no_window => rw [no_window] at window; cases window
    | inr no_document => rw [no_document] at document; cases document
  missing absent := by
    refine apply_eq_self fun _ e member here => ?_
    exact absurd (List.mem_map.2 ⟨e, member, here⟩) absent
  refused id rows adding refuse := by
    subst adding
    refine apply_eq_self fun _ e member here => ?_
    exact PageElement.apply_addRows_of_not_acceptsRows (refuse e member here) id rows

/-- **A page shows what the table model has.** On a page without duplicate identifiers, each write
changes at most the element that it names, and nothing where it cannot be carried out. In an element
that takes rows, where a table has been put and since then only tables and rows, the contents with
the inserted rows at the end of the body are the table that was put there last, with the rows that
have been added to it since; this is also the table of the model. -/
theorem shows_tables (p : Page) (distinct : (p.elements.map PageElement.id).Nodup)
    (ws : List Write) :
    (∀ w, (p.after ws).Confined w) ∧
    ∀ (i : Nat) (e : PageElement), p.isReachable = true → p.elements[i]? = some e →
      e.AcceptsRows → ∀ (first : Table) (more : List Write),
        ws.filter (·.id = e.id) = .putTable e.id first :: more →
        (∀ html : String, .putHtml e.id html ∉ more) →
        ∃ (e' : PageElement) (earlier : List Write) (t shown : Table) (later : List Write),
          (p.after ws).elements[i]? = some e' ∧
          ws.filter (·.id = e.id) = earlier ++ .putTable e.id t :: later ∧
          (∀ w ∈ later, ∃ rows, w = .addRows e.id rows) ∧
          shown = { t with body := t.body ++ String.join (later.filterMap Write.rows?) } ∧
          e'.contents? = some shown.html ∧ ws.foldl (Write.onto e.id) none = some shown := by
  refine ⟨fun w => confined (p.map_id_elements_after ws ▸ distinct) w, ?_⟩
  intro i e reachable found accepts first more own tables
  have here : ∀ w ∈ ws.filter (·.id = e.id), w.id = e.id := fun w member => by
    simpa using (List.mem_filter.1 member).2
  have here_more : ∀ w ∈ more, w.id = e.id := fun w member =>
    here w (own ▸ List.mem_cons_of_mem _ member)
  obtain ⟨earlier, t, later, split, added⟩ :=
    Write.exists_last_table first here_more tables
  rw [← own] at split
  have model : (ws.filter (·.id = e.id)).foldl (Write.onto e.id) none =
      some { t with body := t.body ++ String.join (later.filterMap Write.rows?) } := by
    rw [split, List.foldl_append, List.foldl_cons, Write.onto, if_pos rfl,
      Write.foldl_onto_addRows added]
  have holds := e.holds_none.after accepts here
  rw [model] at holds
  refine ⟨_, earlier, t, _, later, ?_, split, added, rfl, holds.contents?_eq, ?_⟩
  · rw [elements_after reachable distinct, List.getElem?_map, found, Option.map_some]
  · rw [← Write.foldl_onto_filter, model]

/-- Rows that are added to one element stay out of the other, which lacks a table body. -/
theorem shows_tables_of_two_elements :
    let shown : PageElement := ⟨"shown", .present, false, "", ""⟩
    let bare : PageElement := ⟨"bare", .missing, false, "", ""⟩
    let p : Page := { elements := [shown, bare] }
    let ws : List Write :=
      [.putTable "shown" ⟨"head", "x"⟩, .addRows "bare" "y", .addRows "shown" "z"]
    (p.elements.map PageElement.id).Nodup ∧ p.isReachable = true ∧ shown.AcceptsRows ∧
      ∃ e', (p.after ws).elements[0]? = some e' ∧
        e'.contents? = some (Table.html ⟨"head", "xz"⟩) := by
  intro shown bare p ws
  have distinct : (p.elements.map PageElement.id).Nodup := by decide
  have accepts : shown.AcceptsRows := ⟨rfl, rfl⟩
  obtain ⟨-, each⟩ := shows_tables p distinct ws
  obtain ⟨e', earlier, t, table, later, found, -, -, -, contents, model⟩ :=
    each 0 shown rfl rfl accepts ⟨"head", "x"⟩ [.addRows "shown" "z"] (by decide) (by simp)
  have last : ws.foldl (Write.onto "shown") none = some ⟨"head", "xz"⟩ := by decide
  obtain rfl := Option.some.inj (model.symm.trans last)
  exact ⟨distinct, rfl, accepts, e', found, contents⟩

end Page

end SpanDashboard
