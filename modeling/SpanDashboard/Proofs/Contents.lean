import SpanDashboard.Proofs.Supersession
import SpanDashboard.Proofs.Width

/-!
# The contents of a container

What stands in a container is the table that was put there last, with the rows that have been added
since. Its text does not say where a row comes from, so `Contents` remembers the view that each row
was rendered for, next to the view of the header; rendered, it is what has been written
(`shown_eq`). A step puts a new table there, adds rows, or leaves the contents alone
(`contents_step`).
-/

set_option autoImplicit false

namespace SpanDashboard

/-- The element with a table in it, after a write to the page. -/
def Write.onto (id : String) (shown : Option Table) : Write → Option Table
  | .putTable other table => if other = id then some table else shown
  | .addRows other rows =>
    if other = id then shown.map fun t => { t with body := t.body ++ rows } else shown
  | .putHtml other _ => if other = id then none else shown

/-- The table that is shown in a container. -/
def Run.shown (run : Run) (c : Container) : Option Table :=
  run.writes.foldl (Write.onto c.id) none

/-- The contents of a container: the view that the header was rendered for, and the rows, each with
the view that it was rendered for. -/
structure Contents where
  header : View
  rows : List (View × Row)

namespace Contents

/-- The contents as they are rendered. -/
def table (zone : Zone) (t : Contents) : Table :=
  ⟨(Table.headerHtml t.header.spec).render,
    (Html.concat (t.rows.map fun entry => Table.row entry.1.spec zone entry.2)).render⟩

/-- The contents with some more rows. -/
def add (t : Contents) (view : View) (rows : List Row) : Contents :=
  { t with rows := t.rows ++ rows.map fun row => (view, row) }

/-- The contents of a new table. -/
def new (view : View) (rows : List Row) : Contents :=
  ⟨view, rows.map fun row => (view, row)⟩

/-- Whether all rows were rendered for the view of the header. -/
def Uniform (t : Contents) : Prop :=
  ∀ entry ∈ t.rows, entry.1 = t.header

theorem table_new (zone : Zone) (view : View) (rows : List Row) :
    (new view rows).table zone = Table.render view zone rows := by
  simp [new, table, Table.render, Table.rows, Function.comp_def]

theorem table_add (zone : Zone) (t : Contents) (view : View) (rows : List Row) :
    (t.add view rows).table zone =
      { t.table zone with body := (t.table zone).body ++ (Table.render view zone rows).body } := by
  simp [add, table, Table.render, Table.rows, Function.comp_def, Html.render]

end Contents

/-- What the rows of a reply make of the contents of the container. -/
def Request.place (r : Request) (rows : List Row) (shown : Option Contents) : Option Contents :=
  match r.purpose with
  | .render | .select _ => some (.new r.view rows)
  | .append => shown.map fun t => t.add r.view rows

theorem Request.place_of_append {r : Request} (adding : r.purpose = .append) (rows : List Row)
    (shown : Option Contents) : r.place rows shown = shown.map fun t => t.add r.view rows := by
  rw [place, adding]

theorem Request.place_of_ne_append {r : Request} (replacing : r.purpose ≠ .append)
    (rows : List Row) (shown : Option Contents) : r.place rows shown = some (.new r.view rows) := by
  unfold place
  cases purpose : r.purpose with
  | append => exact absurd purpose replacing
  | render => rfl
  | select target => rfl

/-- What a step makes of the contents of a container. -/
def Session.place (s : Session) (c : Container) (shown : Option Contents) : Event → Option Contents
  | .start _ => shown
  | .answer ticket reply =>
    match s.waiting.lookup ticket with
    | none => shown
    | some r =>
      match reply.rows r.view with
      | .error _ => shown
      | .ok rows => if r.container = c ∧ s.dashboard.isCurrent r then r.place rows shown else shown

/-- The contents of a container after some events. -/
def Session.contents (s : Session) (c : Container) (shown : Option Contents) :
    List Event → Option Contents
  | [] => shown
  | e :: rest => (s.step e).1.contents c (s.place c shown e) rest

/-- The contents of a container at the end of a run. -/
def Run.contents (run : Run) (c : Container) : Option Contents :=
  (Session.initial run.settings).contents c none run.events

theorem Session.contents_append (s : Session) (c : Container) (shown : Option Contents)
    (before later : List Event) :
    s.contents c shown (before ++ later) =
      (s.after before).contents c (s.contents c shown before) later := by
  induction before generalizing s shown with
  | nil => rfl
  | cons e rest ih => simp [contents, ih, after]

theorem Container.subheadingId_ne_id (c other : Container) : c.subheadingId ≠ other.id := by
  cases c <;> cases other <;> decide

/-- A stamp leaves the tables alone. -/
theorem Call.stamps_onto (settings : Settings) (call : Call) (c : Container)
    (shown : Option Table) : (call.stamps settings).foldl (Write.onto c.id) shown = shown := by
  rcases call.stamps_cases settings with nothing | ⟨html, stamp⟩
  · rw [nothing]
    rfl
  · have different : refreshStampId ≠ c.id := by cases c <;> decide
    rw [stamp]
    simp [Write.onto, different]

/-- What is written when a reply is used is what becomes of the contents. -/
theorem Dashboard.Resumed.onto {s : Session} {ticket : Nat} {reply : Reply} {r : Request}
    {step : Dashboard.Step Outcome} (how : s.dashboard.Resumed r reply step)
    (waits : s.waiting.lookup ticket = some r) (c : Container) (contents : Option Contents) :
    step.writes.foldl (Write.onto c.id) (contents.map (Contents.table s.dashboard.settings.zone)) =
      (s.place c contents (.answer ticket reply)).map
        (Contents.table s.dashboard.settings.zone) := by
  have same_id : r.container.id = c.id ↔ r.container = c :=
    ⟨Container.id_injective, congrArg Container.id⟩
  simp only [Session.place, Dashboard.isCurrent, waits]
  cases how with
  | stale old =>
    cases reply.rows r.view with
    | error failure => rfl
    | ok rows => simp [old]
  | failed current unread => simp [unread]
  | @rendered rows current read purpose =>
    by_cases here : r.container = c
    · subst here
      simp [read, current, Write.onto, Request.place, purpose, Contents.table_new]
    · simp [read, here, Write.onto, same_id]
  | @selected rows target current read purpose =>
    have subheading (html : Option String) (shown : Option Table) :
        ((html.map (Write.putHtml r.container.subheadingId)).toList).foldl (Write.onto c.id)
          shown = shown := by
      cases html with
      | none => rfl
      | some html => simp [Write.onto, Container.subheadingId_ne_id]
    rw [List.foldl_cons, subheading]
    by_cases here : r.container = c
    · subst here
      simp [read, current, Write.onto, Request.place, purpose, Contents.table_new]
    · simp [read, here, Write.onto, same_id]
  | nothing current read purpose =>
    by_cases here : r.container = c
    · subst here
      cases contents with
      | none => simp [read, current, Request.place, purpose]
      | some t => simp [read, current, Request.place, purpose, Contents.add]
    · simp [read, here]
  | @added row rows current read purpose =>
    by_cases here : r.container = c
    · subst here
      cases contents with
      | none => simp [read, current, Write.onto, Request.place, purpose]
      | some t => simp [read, current, Write.onto, Request.place, purpose, Contents.table_add]
    · simp [read, here, Write.onto, same_id]

/-- What a step writes is what it makes of the contents. -/
theorem Session.Turn.onto {s next : Session} {e : Event} {effects : List Effect}
    (turn : Turn s e next effects) (c : Container) (contents : Option Contents) :
    (effects.filterMap Effect.write?).foldl (Write.onto c.id)
        (contents.map (Contents.table s.dashboard.settings.zone)) =
      (s.place c contents e).map (Contents.table s.dashboard.settings.zone) := by
  cases turn with
  | @asked call r request =>
    have written : ((call.stamps s.dashboard.settings).map Effect.write ++
        [Effect.fetch s.started r.url]).filterMap Effect.write? =
          call.stamps s.dashboard.settings := by
      simp [Effect.write?, List.filterMap_cons]
    rw [written, Call.stamps_onto]
    rfl
  | refused unknown => rfl
  | ignored nobody => simp [Session.place, nobody]
  | resumed waits how =>
    rw [filterMap_write?_ended]
    exact how.onto waits c contents

namespace Run

theorem contents_extend_one (run : Run) (e : Event) (c : Container) :
    (run.extend [e]).contents c = run.session.place c (run.contents c) e :=
  Session.contents_append _ c none run.events [e]

/-- A reply that is used places its rows. -/
theorem contents_answer (run : Run) {ticket : Nat} {r : Request}
    (waits : run.session.waiting.lookup ticket = some r)
    (current : run.session.dashboard.generation r.container = r.generation) {reply : Reply}
    {rows : List Row} (read : reply.rows r.view = .ok rows) :
    (run.extend [.answer ticket reply]).contents r.container =
      r.place rows (run.contents r.container) := by
  rw [contents_extend_one]
  simp [Session.place, waits, read, Dashboard.isCurrent, current]

/-- Everything that a step can do to the contents of a container. -/
theorem contents_step (run : Run) (e : Event) (c : Container) :
    (run.extend [e]).contents c = run.contents c ∨
    ∃ ticket reply r rows, e = .answer ticket reply ∧
      run.session.waiting.lookup ticket = some r ∧ r.container = c ∧
      run.session.dashboard.generation c = r.generation ∧ reply.rows r.view = .ok rows ∧
      (run.extend [e]).contents c = r.place rows (run.contents c) := by
  rw [contents_extend_one]
  cases e with
  | start call => exact .inl rfl
  | answer ticket reply =>
    cases waits : run.session.waiting.lookup ticket with
    | none => simp [Session.place, waits]
    | some r =>
      cases read : reply.rows r.view with
      | error failure => simp [Session.place, waits, read]
      | ok rows =>
        by_cases used : r.container = c ∧ run.session.dashboard.isCurrent r
        · obtain ⟨rfl, current⟩ := used
          refine .inr ⟨ticket, reply, r, rows, rfl, waits, rfl, beq_iff_eq.1 current, read, ?_⟩
          simp [Session.place, waits, read, current]
        · simp [Session.place, waits, read, used]

/-- The contents, rendered, are what has been written. -/
theorem shown_eq (run : Run) (c : Container) :
    run.shown c = (run.contents c).map (Contents.table run.settings.zone) := by
  induction run using Run.induction with
  | start settings => rfl
  | step run e ih =>
    have written := (run.session.step_turn e).onto c (run.contents c)
    rw [run.remembers.settings_eq, ← ih] at written
    rw [shown, writes_extend_one, List.foldl_append, contents_extend_one]
    exact written

end Run

end SpanDashboard
