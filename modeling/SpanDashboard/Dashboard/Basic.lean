import SpanDashboard.Dashboard.Diagnostic
import SpanDashboard.Page.Write
import SpanDashboard.Response
import SpanDashboard.Selection
import SpanDashboard.Settings

/-!
# The dashboard

The `Engine` behind every table. Its operations `render_view`, `render_view_named`, `append_view`,
`on_cell_activated` and `refresh_data` are calls, and each of them is cut in two where it waits for
its response: `Dashboard.begin` is what it does before, `Dashboard.resume` what it does with the
reply. Many requests may be on their way at once. Each container counts the requests that replace
its table (`generations`), and each request notes the count that it was made under; a reply is used
only while the count is still the same, so the latest request for a container wins. A failure never
leaves the dashboard: it becomes an outcome and an entry of the log, and what is on the page stays
there.
-/

set_option autoImplicit false

namespace SpanDashboard

/-- What the dashboard is asked to do. -/
inductive Call where
  /-- `render_view`: replace the table of a view. -/
  | render (view : View) (key : Option DetailKey)
  /-- `render_view_named`: replace the table of the view with a given name. -/
  | renderNamed (name : String) (key : Option DetailKey)
  /-- `append_view`: add rows to the table of a view. -/
  | append (view : View) (key : Option DetailKey)
  /-- `on_cell_activated`: open the detail view for a clicked cell. -/
  | activate (cell : OverviewCell) (rowKey : String)
  /-- `refresh_data`: show the current time, in nanoseconds since the start of 1970, and replace the
  overview. -/
  | refresh (now : Int)
  deriving DecidableEq, Repr

/-- What a reply will be used for. -/
inductive Purpose where
  /-- A new table. -/
  | render
  /-- More rows. -/
  | append
  /-- A new table together with a new selection. -/
  | select (target : Selection)
  deriving DecidableEq, Repr

/-- A request whose reply has not come yet. -/
structure Request where
  view : View
  url : String
  /-- The count of the container at the time of the request. -/
  generation : Nat
  purpose : Purpose
  deriving DecidableEq, Repr

namespace Request

/-- The container that the request is for. -/
def container (r : Request) : Container :=
  r.view.container

/-- The table that the request is for, and where it asked. -/
def subject (r : Request) : String :=
  r.view.name ++ " table from " ++ r.url

/-- What is logged of a reply that comes too late. -/
def staleMessage (r : Request) : String :=
  match r.purpose with
  | .append => "dropped stale rows for " ++ r.subject
  | .render | .select _ => "dropped stale response for " ++ r.subject

end Request

/-- What became of a call, a `RenderOutcome`. -/
inductive Outcome where
  | rendered (rows : Nat)
  | appended (rows : Nat)
  /-- A newer request for the container was made before the reply came. -/
  | superseded
  | failed (failure : Failure)

/-- What `fetch` of a `SpanSource` gives: the body of a response, or why there is none. -/
abbrev Reply : Type :=
  Except Failure String

/-- The rows that a reply brings: `fetch_table`, where the table itself is left to `commit`. -/
def Reply.rows (view : View) (reply : Reply) : Except Failure (List Row) := do
  let body ← reply
  (Response.rows view body).mapError .response

/-- The state of an `Engine`. -/
structure Dashboard where
  settings : Settings
  selection : Selection
  /-- How many requests to replace the table of a container there have been. -/
  generation : Container → Nat
  /-- The newest entries of the log, oldest first. -/
  diagnostics : List Diagnostic

namespace Dashboard

/-- A dashboard that has done nothing yet. -/
def initial (settings : Settings) : Dashboard :=
  ⟨settings, .overview, fun _ => 0, []⟩

/-- Adds an entry to the log, as `record` does. -/
def log (d : Dashboard) (level : DiagnosticLevel) (message : String) : Dashboard :=
  { d with diagnostics := Diagnostic.record d.diagnostics ⟨level, message⟩ }

/-- Counts a request to replace the table of a container: `begin_request`. -/
def advance (d : Dashboard) (c : Container) : Dashboard :=
  { d with generation := fun other => d.generation other + if other = c then 1 else 0 }

/-- The URL of the records of a view: `url_for`. -/
def url (d : Dashboard) (view : View) (key : Option DetailKey) : String :=
  d.settings.url (view.path key)

/-- What a call comes to at its start. -/
inductive Start where
  | waiting (request : Request)
  | finished (outcome : Outcome)

/-- The state and the writes after a part of a call, and what the part comes to. -/
structure Step (α : Type) where
  dashboard : Dashboard
  writes : List Write
  result : α

/-- `render_view` until it fetches: makes a request that supersedes the earlier ones for the
container. -/
def requestTable (d : Dashboard) (purpose : Purpose) (view : View) (key : Option DetailKey) :
    Step Start :=
  let next := d.advance view.container
  ⟨next, [], .waiting ⟨view, d.url view key, next.generation view.container, purpose⟩⟩

/-- `append_view` until it fetches: makes a request for more rows, which notes `current_generation`
and supersedes nothing. -/
def requestRows (d : Dashboard) (view : View) (key : Option DetailKey) : Step Start :=
  ⟨d, [], .waiting ⟨view, d.url view key, d.generation view.container, .append⟩⟩

/-- Starts a call. A name that `resolve_view_named` refuses ends it at once; `on_cell_activated` and
`refresh_data` go on as `render_view`. -/
def begin (d : Dashboard) : Call → Step Start
  | .render view key => d.requestTable .render view key
  | .renderNamed name key =>
    match View.ofName? name with
    | some view => d.requestTable .render view key
    | none =>
      let failure := Failure.unknownView name
      ⟨d.log .failure (failure.message d.settings.syntaxReport), [], .finished (.failed failure)⟩
  | .append view key => d.requestRows view key
  | .activate cell rowKey =>
    let target := Selection.ofCell cell rowKey
    d.requestTable (.select target) target.view target.key?
  | .refresh now =>
    let step := d.requestTable .render .overview none
    { step with writes := [.putHtml refreshStampId (Timestamp.text d.settings.zone now)] }

/-- Whether no newer request has superseded this one: `is_current`. -/
def isCurrent (d : Dashboard) (r : Request) : Bool :=
  d.generation r.container == r.generation

/-- Writes the rows of a reply: the end of `render_view` and of `append_view`, and for a selection
what `on_cell_activated` does once the table is there. -/
def commit (d : Dashboard) (r : Request) (rows : List Row) : Step Outcome :=
  let table := Table.render r.view d.settings.zone rows
  let id := r.container.id
  match r.purpose with
  | .render => ⟨d, [.putTable id table], .rendered rows.length⟩
  | .select target =>
    let subheading := (target.subheading? d.settings.sampleLimit).map fun html =>
      Write.putHtml r.container.subheadingId html
    ⟨{ d with selection := target }, .putTable id table :: subheading.toList,
      .rendered rows.length⟩
  | .append =>
    if rows.isEmpty then
      ⟨d.log .note ("No rows added for " ++ r.view.name ++ " table"), [], .appended 0⟩
    else ⟨d, [.addRows id table.body], .appended rows.length⟩

/-- The part of `render_view` and of `append_view` after the fetch. A reply that comes too late is
dropped before anything is asked of it; of the others the rows are written, or the failure is logged
as `fail` does. -/
def resume (d : Dashboard) (r : Request) (reply : Reply) : Step Outcome :=
  if d.isCurrent r then
    match reply.rows r.view with
    | .ok rows => d.commit r rows
    | .error failure =>
      let words := failure.message d.settings.syntaxReport
      ⟨d.log .failure (r.subject ++ ": " ++ words), [], .failed failure⟩
  else ⟨d.log .debug r.staleMessage, [], .superseded⟩

@[simp] theorem log_generation (d : Dashboard) (level : DiagnosticLevel) (message : String) :
    (d.log level message).generation = d.generation := by
  simp [log]

@[simp] theorem log_selection (d : Dashboard) (level : DiagnosticLevel) (message : String) :
    (d.log level message).selection = d.selection := by
  simp [log]

end Dashboard

end SpanDashboard
