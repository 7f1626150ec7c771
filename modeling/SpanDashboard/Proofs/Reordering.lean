import SpanDashboard.Dashboard.Basic
import SpanDashboard.Proofs.Documents
import SpanDashboard.Proofs.Reading

/-!
# The order of members

One document is a reordering of another if only the order of members in objects is different, at any
depth (`Document.Reordered`). Reading keeps of a document only what the order does not change: the
canonical form of its value, and whether it nests too deep. So no two texts of such documents can be
told apart by what comes of them, unless the JSON reader refuses both, and what is shown is always
in the order of the keys (`order_and_layout_leave_no_trace`).
-/

set_option autoImplicit false

namespace SpanDashboard

namespace Json

/-- The texts that the keys of some members stand for. -/
def keys (members : List (Spelling × Document)) : List String :=
  members.filterMap fun m => m.1.text?

/-- One document becomes another by putting the members of objects, at any depth and one object
after the other, into another order. The keys of each of these objects are different. -/
inductive Document.Reordered : Document → Document → Prop where
  | refl (d : Document) : Reordered d d
  | trans {d e f : Document} (first : Reordered d e) (more : Reordered e f) : Reordered d f
  | members {members shuffled : List (Spelling × Document)} (distinct : (keys members).Nodup)
      (shuffle : members.Perm shuffled) : Reordered (.object members) (.object shuffled)
  | item {d e : Document} (before after : List Document) (inside : Reordered d e) :
      Reordered (.array (before ++ d :: after)) (.array (before ++ e :: after))
  | value {d e : Document} (before : List (Spelling × Document)) (key : Spelling)
      (after : List (Spelling × Document)) (inside : Reordered d e) :
      Reordered (.object (before ++ (key, d) :: after)) (.object (before ++ (key, e) :: after))

namespace Document.Reordered

theorem items {items others : List Document} (each : List.Forall₂ Reordered items others)
    (before : List Document) :
    (Document.array (before ++ items)).Reordered (.array (before ++ others)) := by
  induction each generalizing before with
  | nil => exact refl _
  | @cons d e rest _ first _ ih =>
    have later := ih (before ++ [e])
    rw [List.append_assoc, List.append_assoc] at later
    exact (item before rest first).trans later

/-- All items of an array may be reordered. -/
theorem array {items others : List Document} (each : List.Forall₂ Reordered items others) :
    (Document.array items).Reordered (.array others) :=
  Reordered.items each []

theorem values {members others : List (Spelling × Document)}
    (each : List.Forall₂ (fun m n => m.1 = n.1 ∧ m.2.Reordered n.2) members others)
    (before : List (Spelling × Document)) :
    (Document.object (before ++ members)).Reordered (.object (before ++ others)) := by
  induction each generalizing before with
  | nil => exact refl _
  | @cons m n rest _ first _ ih =>
    obtain ⟨named, inside⟩ := first
    have later := ih (before ++ [n])
    rw [List.append_assoc, List.append_assoc] at later
    exact (value before m.1 rest inside).trans (named ▸ later)

/-- The members of an object may change places while everything inside of them is reordered. -/
theorem object {members shuffled others : List (Spelling × Document)}
    (distinct : (keys members).Nodup) (shuffle : members.Perm shuffled)
    (each : List.Forall₂ (fun m n => m.1 = n.1 ∧ m.2.Reordered n.2) shuffled others) :
    (Document.object members).Reordered (.object others) :=
  (Reordered.members distinct shuffle).trans (values each [])

end Document.Reordered

/-! ## What is left of a value -/

/-- What is left of a value once it has been read: its canonical form, and how deep it nests. -/
def gist (v : Json) : Json × Nat :=
  (v.canonical, v.nesting)

theorem nestingItems_eq_foldr (items : List Json) :
    nestingItems items = (items.map nesting).foldr max 0 := by
  induction items with
  | nil => rfl
  | cons v rest ih => rw [nestingItems, ih, List.map_cons, List.foldr_cons]

theorem nestingMembers_eq_foldr (members : List (String × Json)) :
    nestingMembers members = (members.map fun m => m.2.nesting).foldr max 0 := by
  induction members with
  | nil => rfl
  | cons m rest ih => rw [nestingMembers, ih, List.map_cons, List.foldr_cons]

theorem gist_array {items others : List Json} (same : items.map gist = others.map gist) :
    (array items).gist = (array others).gist := by
  have canonical_eq : items.map canonical = others.map canonical := by
    simpa [gist, Function.comp_def] using congrArg (List.map Prod.fst) same
  have nesting_eq : items.map nesting = others.map nesting := by
    simpa [gist, Function.comp_def] using congrArg (List.map Prod.snd) same
  refine Prod.ext ?_ ?_
  · show (array items).canonical = (array others).canonical
    rw [canonical_array, canonical_array, canonical_eq]
  · show nestingItems items + 1 = nestingItems others + 1
    rw [nestingItems_eq_foldr, nestingItems_eq_foldr, nesting_eq]

theorem gist_object {members others : List (String × Json)}
    (same : (members.map fun m => (m.1, m.2.gist)) = others.map fun m => (m.1, m.2.gist)) :
    (object members).gist = (object others).gist := by
  have canonical_eq : (members.map fun m => (m.1, m.2.canonical)) =
      others.map fun m => (m.1, m.2.canonical) := by
    simpa [gist, Function.comp_def] using congrArg (List.map fun m => (m.1, m.2.1)) same
  have nesting_eq : (members.map fun m => m.2.nesting) = others.map fun m => m.2.nesting := by
    simpa [gist, Function.comp_def] using congrArg (List.map fun m => m.2.2) same
  refine Prod.ext ?_ ?_
  · show (object members).canonical = (object others).canonical
    rw [canonical_object, canonical_object, canonical_eq]
  · show nestingMembers members + 1 = nestingMembers others + 1
    rw [nestingMembers_eq_foldr, nestingMembers_eq_foldr, nesting_eq]

/-- Members with different keys can only be sorted in one way. -/
theorem sortMembers_congr {members shuffled : List (String × Json)}
    (distinct : (members.map Prod.fst).Nodup) (shuffle : members.Perm shuffled) :
    sortMembers members = sortMembers shuffled := by
  have distinct' := (shuffle.map Prod.fst).nodup_iff.1 distinct
  have sorted : (sortMembers members).Perm (sortMembers shuffled) :=
    (sortMembers_perm distinct).trans (shuffle.trans (sortMembers_perm distinct').symm)
  refine sorted.eq_of_pairwise ?_ (pairwise_sortMembers members) (pairwise_sortMembers shuffled)
  intro m n _ _ before after
  exact absurd after (String.lt_asymm before)

theorem gist_shuffled {members shuffled : List (String × Json)}
    (distinct : (members.map Prod.fst).Nodup) (shuffle : members.Perm shuffled) :
    (object members).gist = (object shuffled).gist := by
  refine Prod.ext ?_ ?_
  · show (object members).canonical = (object shuffled).canonical
    have unchanged : (members.map fun m => (m.1, m.2.canonical)).map Prod.fst =
        members.map Prod.fst := by
      simp
    rw [canonical_object, canonical_object,
      sortMembers_congr (unchanged ▸ distinct) (shuffle.map _)]
  · show nestingMembers members + 1 = nestingMembers shuffled + 1
    rw [nestingMembers_eq_foldr, nestingMembers_eq_foldr, (shuffle.map _).foldr_eq]

/-! ## What is left of a document -/

/-- The key and the value of a member. -/
def memberValue? (m : Spelling × Document) : Option (String × Json) := do
  let k ← m.1.text?
  let v ← m.2.value?
  some (k, v)

theorem itemValues?_eq_mapM (items : List Document) :
    itemValues? items = items.mapM Document.value? := by
  induction items with
  | nil => rfl
  | cons d rest ih =>
    rw [itemValues?, ih, List.mapM_cons]
    rfl

theorem memberValues?_eq_mapM (members : List (Spelling × Document)) :
    memberValues? members = members.mapM memberValue? := by
  induction members with
  | nil => rfl
  | cons m rest ih =>
    rw [memberValues?, ih, List.mapM_cons, memberValue?]
    cases m.1.text? <;> cases m.2.value? <;> rfl

section Lists

variable {α β : Type} {f : α → Option β}

theorem mapM_cons_eq_some_iff {a : α} {as : List α} {xs : List β} :
    (a :: as).mapM f = some xs ↔ ∃ x ys, f a = some x ∧ as.mapM f = some ys ∧ x :: ys = xs := by
  rw [List.mapM_cons]
  cases f a <;> cases as.mapM f <;> simp

/-- Where all values of a list can be read, they can be read in any other order. -/
theorem exists_perm_mapM {as bs : List α} (shuffle : as.Perm bs) {xs : List β}
    (read : as.mapM f = some xs) : ∃ ys, bs.mapM f = some ys ∧ xs.Perm ys := by
  induction shuffle generalizing xs with
  | nil => exact ⟨xs, read, .refl xs⟩
  | cons a _ ih =>
    obtain ⟨x, later, first, others, rfl⟩ := mapM_cons_eq_some_iff.1 read
    obtain ⟨ys, others, shuffle⟩ := ih others
    exact ⟨x :: ys, mapM_cons_eq_some_iff.2 ⟨x, ys, first, others, rfl⟩, shuffle.cons x⟩
  | swap a b rest =>
    obtain ⟨y, later, second, more, rfl⟩ := mapM_cons_eq_some_iff.1 read
    obtain ⟨x, zs, first, others, rfl⟩ := mapM_cons_eq_some_iff.1 more
    have swapped := mapM_cons_eq_some_iff.2 ⟨y, zs, second, others, rfl⟩
    exact ⟨x :: y :: zs, mapM_cons_eq_some_iff.2 ⟨x, _, first, swapped, rfl⟩, .swap x y zs⟩
  | trans _ _ ih ih' =>
    obtain ⟨ys, read, shuffle⟩ := ih read
    obtain ⟨zs, read, shuffle'⟩ := ih' read
    exact ⟨zs, read, shuffle.trans shuffle'⟩

end Lists

theorem keys_of_memberValues? {members : List (Spelling × Document)} {ms : List (String × Json)}
    (read : members.mapM memberValue? = some ms) : keys members = ms.map Prod.fst := by
  induction members generalizing ms with
  | nil =>
    obtain rfl := Option.some.inj read
    rfl
  | cons m rest ih =>
    obtain ⟨x, later, first, others, rfl⟩ := mapM_cons_eq_some_iff.1 read
    obtain ⟨k, named, more⟩ := Option.bind_eq_some_iff.1 first
    obtain ⟨v, -, same⟩ := Option.bind_eq_some_iff.1 more
    obtain rfl := Option.some.inj same
    have rest_keys := ih others
    rw [keys] at rest_keys ⊢
    rw [List.filterMap_cons, named, rest_keys, List.map_cons]

/-- Values of the same gist have everything in common that depends on nothing else. -/
theorem map_congr_of_gist {α : Type} {v? w? : Option Json} (same : v?.map gist = w?.map gist)
    {f : Json → α} (respects : ∀ v w, v.gist = w.gist → f v = f w) : v?.map f = w?.map f := by
  cases v? with
  | none =>
    cases w? with
    | none => rfl
    | some w => cases same
  | some v =>
    cases w? with
    | none => cases same
    | some w => exact congrArg some (respects v w (Option.some.inj same))

namespace Document

/-- What is left of an array, from what is read before, at and after one of its items. -/
theorem gist_item (before : List Document) (d : Document) (after : List Document) :
    (array (before ++ d :: after)).value?.map gist =
      (before.mapM value?).bind fun bs => (after.mapM value?).bind fun as =>
        d.value?.map fun v => (Json.array (bs ++ v :: as)).gist := by
  rw [value?, itemValues?_eq_mapM, List.mapM_append, List.mapM_cons]
  cases before.mapM value? <;> cases after.mapM value? <;> cases d.value? <;> rfl

/-- What is left of an object, from what is read before, at and after one of its members. -/
theorem gist_member (before : List (Spelling × Document)) (key : Spelling) (d : Document)
    (after : List (Spelling × Document)) :
    (object (before ++ (key, d) :: after)).value?.map gist =
      (before.mapM memberValue?).bind fun bs => (after.mapM memberValue?).bind fun as =>
        key.text?.bind fun k => d.value?.map fun v => (Json.object (bs ++ (k, v) :: as)).gist := by
  rw [value?, memberValues?_eq_mapM, List.mapM_append, List.mapM_cons, memberValue?]
  cases before.mapM memberValue? <;> cases after.mapM memberValue? <;> cases key.text? <;>
    cases d.value? <;> rfl

/-- The order of members with different keys does not count. -/
theorem gist_shuffled {members shuffled : List (Spelling × Document)}
    (distinct : (keys members).Nodup) (shuffle : members.Perm shuffled) :
    (object members).value?.map gist = (object shuffled).value?.map gist := by
  rw [value?, value?, memberValues?_eq_mapM, memberValues?_eq_mapM, Option.map_map, Option.map_map]
  cases read : members.mapM memberValue? with
  | some ms =>
    obtain ⟨ns, read', shuffle⟩ := exists_perm_mapM shuffle read
    rw [keys_of_memberValues? read] at distinct
    rw [read']
    exact congrArg some (Json.gist_shuffled distinct shuffle)
  | none =>
    cases read' : shuffled.mapM memberValue? with
    | none => rfl
    | some ns =>
      obtain ⟨ms, impossible, -⟩ := exists_perm_mapM shuffle.symm read'
      rw [read] at impossible
      cases impossible

/-- Reordering changes nothing of what is left of a document once it has been read. -/
theorem Reordered.gist_eq {d e : Document} (same : d.Reordered e) :
    d.value?.map gist = e.value?.map gist := by
  induction same with
  | refl d => rfl
  | trans _ _ ih ih' => exact ih.trans ih'
  | members distinct shuffle => exact gist_shuffled distinct shuffle
  | @item d e before after _ ih =>
    have inside (bs as : List Json) :
        (d.value?.map fun v => (Json.array (bs ++ v :: as)).gist) =
          e.value?.map fun v => (Json.array (bs ++ v :: as)).gist :=
      map_congr_of_gist ih fun v w same => gist_array (by simp [same])
    simp only [gist_item, inside]
  | @value d e before key after _ ih =>
    have inside (k : String) (bs as : List (String × Json)) :
        (d.value?.map fun v => (Json.object (bs ++ (k, v) :: as)).gist) =
          e.value?.map fun v => (Json.object (bs ++ (k, v) :: as)).gist :=
      map_congr_of_gist ih fun v w same => gist_object (by simp [same])
    simp only [gist_member, inside]

end Document

/-- All texts of all reorderings of a document are read as the same value, or none of them is. -/
theorem Document.Reordered.parse?_eq {d e : Document} (same : d.Reordered e)
    {text other : String} (written : d.IsWritten text) (rewritten : e.IsWritten other) :
    parse? text = parse? other := by
  have of_gist (d : Document) :
      (d.value?.bind fun v => if v.nesting ≤ maxNesting then some v.canonical else none) =
        (d.value?.map gist).bind fun g => if g.2 ≤ maxNesting then some g.1 else none := by
    rw [Option.bind_map]
    rfl
  rw [parse?_of_isWritten written, parse?_of_isWritten rewritten, of_gist, of_gist, same.gist_eq]

/-- The JSON reader takes a document: all of its words and strings stand for something, and no more
than 127 arrays and objects are inside of each other. -/
def Document.IsRead (d : Document) : Prop :=
  ∃ v, d.value? = some v ∧ v.nesting ≤ 127

theorem Document.isRead_iff {d : Document} {text : String} (written : d.IsWritten text) :
    d.IsRead ↔ ∃ v, parse? text = some v := by
  rw [parse?_of_isWritten written, IsRead]
  cases d.value? with
  | none => simp
  | some v =>
    have limit : maxNesting = 127 := rfl
    by_cases shallow : v.nesting ≤ 127 <;> simp [limit, shallow]

/-- What is shown of a value is the text of one with its members in order, at every depth. -/
def ShownInOrder (v : Json) : Prop :=
  ∃ w : Json, w.Sorted ∧ v.shown = w.pretty

theorem Sorted.shownInOrder {v : Json} (sorted : v.Sorted) : v.ShownInOrder :=
  ⟨v.bounded 0, sorted.bounded 0, rfl⟩

end Json

/-! ## Responses -/

namespace Response

/-- What is seen of the body of a response: its table and how many rows this has, or the words for
what is wrong with it, where `report` is what the JSON reader says of a text that it refuses. -/
def display (report : String → String) (view : View) (zone : Zone) (body : String) :
    Except String (String × Nat) :=
  match rows view body with
  | .ok rs => .ok ((Table.render view zone rs).html, rs.length)
  | .error fault => .error ((Failure.response fault).message report)

theorem rows_of_unread {body : String} (unread : Json.parse? body = none) (view : View) :
    rows view body = .error (.notJson body) := by
  rw [rows, unread]

/-- What is read of a body depends on the value in it alone. -/
theorem rows_congr {text other : String} {v : Json} (read : Json.parse? text = some v)
    (read_other : Json.parse? other = some v) (view : View) : rows view text = rows view other := by
  rw [rows, rows, read, read_other]
  cases v <;> rfl

theorem rows_ne_notJson {body : String} {v : Json} (read : Json.parse? body = some v) (view : View)
    (refused : String) : rows view body ≠ .error (.notJson refused) := by
  intro unread
  rw [rows, read] at unread
  cases v with
  | array items =>
    have failed : (items.mapM view.readRow).mapError ResponseFault.badRecord =
        .error (.notJson refused) := unread
    cases each : items.mapM view.readRow with
    | ok rs => simp [each, Except.mapError] at failed
    | error problem => simp [each, Except.mapError] at failed
  | _ => cases unread

/-- **The order of members and the white space of a response leave no trace.** For all texts of two
documents that differ at most in the order of members, every view reads the same rows or finds the
same fault, and shows the same table, with as many rows, or the same words. A dashboard goes on in
the same way from both. Only if the documents are ones that the JSON reader refuses, then both texts
are refused, each in the words of the reader for it. In all rows, attributes and those of events are
shown in the order of their keys. -/
theorem order_and_layout_leave_no_trace {d e : Json.Document} (same : d.Reordered e)
    {text other : String} (written : d.IsWritten text) (rewritten : e.IsWritten other) :
    (d.IsRead →
      (∀ view, rows view text = rows view other) ∧
      (∀ view refused, rows view text ≠ .error (.notJson refused)) ∧
      (∀ report view zone, display report view zone text = display report view zone other) ∧
      ∀ (dashboard : Dashboard) (request : Request),
        dashboard.resume request (.ok text) = dashboard.resume request (.ok other)) ∧
      (¬ d.IsRead → ∀ report view zone,
        display report view zone text =
            .error ("malformed response: invalid JSON: " ++ report text) ∧
          display report view zone other =
            .error ("malformed response: invalid JSON: " ++ report other)) ∧
      ∀ (row : Row) column,
        (∀ values, row.cell column = .attributes values → values.object.json.ShownInOrder) ∧
        ∀ list, row.cell column = .events list →
          ∀ e ∈ list, ∀ zone, (Table.shownEvent zone e).json.ShownInOrder := by
  have parsed := same.parse?_eq written rewritten
  refine ⟨fun isRead => ?_, fun refused report view zone => ?_, ?_⟩
  · obtain ⟨v, value⟩ := (Json.Document.isRead_iff written).1 isRead
    have value_other : Json.parse? other = some v := parsed.symm.trans value
    have read := rows_congr value value_other
    refine ⟨read, rows_ne_notJson value, fun report view zone => ?_, fun dashboard request => ?_⟩
    · rw [display, display, read]
    · have reply : Reply.rows request.view (.ok text) = Reply.rows request.view (.ok other) :=
        congrArg (Except.mapError Failure.response) (read request.view)
      rw [Dashboard.resume, Dashboard.resume, reply]
  · rw [Json.Document.isRead_iff written, not_exists,
      ← Option.eq_none_iff_forall_ne_some] at refused
    have beginning : "malformed response: " ++ "invalid JSON: " =
        "malformed response: invalid JSON: " := by decide
    have words {body : String} (unread : Json.parse? body = none) :
        display report view zone body =
          .error ("malformed response: invalid JSON: " ++ report body) := by
      rw [display, rows_of_unread unread, ← beginning, String.append_assoc,
        ← Failure.message_notJson]
    exact ⟨words refused, words (parsed.symm.trans refused)⟩
  · intro row column
    exact ⟨fun values _ => values.sorted.shownInOrder,
      fun _ _ e _ zone => (Table.shownEvent zone e).sorted.shownInOrder⟩

namespace Sample

open Json

def spanKey : Spelling := .plain "spanid" rfl
def attributesKey : Spelling := .plain "attributes" rfl
def countKey : Spelling := .plain "a" rfl
def innerKey : Spelling := .plain "b" rfl
def name : Document := .string (.plain "s" rfl)
def one : Document := .word ⟨['1'], by decide, rfl⟩
def nothing : Document := .word ⟨['n', 'u', 'l', 'l'], by decide, rfl⟩

/-- A span with an object inside of its attributes. -/
def span : Document :=
  .array [.object [(spanKey, name),
    (attributesKey, .object [(innerKey, .object [(innerKey, nothing), (countKey, one)]),
      (countKey, one)])]]

/-- The same span with the members of all objects the other way round. -/
def turned : Document :=
  .array [.object [
    (attributesKey, .object [(countKey, one),
      (innerKey, .object [(countKey, one), (innerKey, nothing)])]),
    (spanKey, name)]]

/-- A text of the span without any white space. -/
def compactText : String :=
  "[\x7b\"spanid\":\"s\"," ++
    "\"attributes\":\x7b\"b\":\x7b\"b\":null,\"a\":1\x7d,\"a\":1\x7d\x7d]"

/-- A text of the turned span on several lines. -/
def spaciousText : String :=
  "[ \x7b\n\t\"attributes\" : \x7b\"a\":1, \"b\":\x7b\"a\":1, \"b\":null\x7d \x7d,\n" ++
    "\t\"spanid\": \"s\"\n\x7d ]\r\n"

theorem span_reordered : span.Reordered turned := by
  refine .array (.cons ?_ .nil)
  refine .object (by decide) (.swap _ _ _) (.cons ⟨rfl, ?_⟩ (.cons ⟨rfl, .refl _⟩ .nil))
  refine .object (by decide) (.swap _ _ _) (.cons ⟨rfl, .refl _⟩ (.cons ⟨rfl, ?_⟩ .nil))
  exact .members (by decide) (.swap _ _ _)

end Sample

open Sample in
/-- From both texts of a span one row is read, and the same table is shown. -/
theorem order_and_layout_leave_no_trace_of_span :
    span.Reordered turned ∧ span.IsWritten compactText ∧ turned.IsWritten spaciousText ∧
      span.IsRead ∧ ¬ span.IsWritten spaciousText ∧
      (rows .error spaciousText).toOption.map List.length = some 1 ∧
      ∀ report, display report .error .utc compactText =
        display report .error .utc spaciousText := by
  have written : span.IsWritten compactText := by decide
  have rewritten : turned.IsWritten spaciousText := by decide
  have taken : (Json.parse? compactText).isSome = true := by decide +kernel
  have isRead : span.IsRead :=
    (Json.Document.isRead_iff written).2 (Option.isSome_iff_exists.1 taken)
  obtain ⟨read, -, shown, -⟩ :=
    (order_and_layout_leave_no_trace span_reordered written rewritten).1 isRead
  refine ⟨span_reordered, written, rewritten, isRead, by decide, ?_,
    fun report => shown report .error .utc⟩
  rw [← read .error]
  decide +kernel

end Response

end SpanDashboard
