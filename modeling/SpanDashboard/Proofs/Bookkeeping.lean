import Mathlib.Data.List.Basic
import SpanDashboard.Proofs.Account

/-!
# What a finished call leaves behind

A step that finishes a call changes the selection, the log and the page as the call and its outcome
say (`Booked`); a step that finishes none only writes the stamp of a refresh (`step_booked`). So the
selection, the log and all that is written can be read off the list of the finished calls.
-/

set_option autoImplicit false

namespace SpanDashboard

/-- The selection that a call has made with its outcome: that of a clicked cell whose detail table
has been rendered. -/
def Call.selection? : Call → Outcome → Option Selection
  | .activate cell rowKey, .rendered _ => some (.ofCell cell rowKey)
  | _, _ => none

/-- How much an outcome matters to the log. -/
def Outcome.level? : Outcome → Option DiagnosticLevel
  | .rendered _ | .appended (_ + 1) => none
  | .appended 0 => some .note
  | .superseded => some .debug
  | .failed _ => some .failure

/-- What is logged of an outcome of a request. -/
def Request.message (r : Request) (settings : Settings) : Outcome → String
  | .failed failure => r.subject ++ ": " ++ failure.message settings.syntaxReport
  | .superseded => r.staleMessage
  | .rendered _ | .appended _ => "No rows added for " ++ r.view.name ++ " table"

/-- What is logged of an outcome of a call. A call that names no view has made no request. -/
def Call.message (settings : Settings) (call : Call) (outcome : Outcome) : String :=
  match call.request? settings (fun _ => 0), outcome with
  | some r, outcome => r.message settings outcome
  | none, .failed failure => failure.message settings.syntaxReport
  | none, _ => ""

/-- The entry of the log that a call makes with its outcome. -/
def Call.diagnostic? (settings : Settings) (call : Call) (outcome : Outcome) : Option Diagnostic :=
  outcome.level?.map fun level => ⟨level, call.message settings outcome⟩

namespace Write

/-- Whether a write changes a table. -/
def isTable : Write → Bool
  | putTable _ _ | addRows _ _ => true
  | putHtml _ _ => false

/-- The piece of HTML that a write puts into an element. -/
def html? (id : String) : Write → Option String
  | putHtml other html => if other = id then some html else none
  | putTable _ _ | addRows _ _ => none

end Write

/-- What a call has written to the tables: a new table or some rows in its own container, or
nothing at all. -/
def Outcome.Placed (call : Call) (ws : List Write) : Outcome → Prop
  | .rendered _ => ∃ c table, call.container? = some c ∧ ws = [.putTable c.id table]
  | .appended (_ + 1) => ∃ c rows, call.container? = some c ∧ ws = [.addRows c.id rows]
  | .appended 0 | .superseded | .failed _ => ws = []

/-- What a call that is over changes, from the dashboard `d` to the dashboard `after`. -/
structure Booked (settings : Settings) (d after : Dashboard) (ws : List Write) (call : Call)
    (outcome : Outcome) : Prop where
  selection_eq : after.selection = (call.selection? outcome).getD d.selection
  /-- The entry of the call comes behind those that are kept, of which there are 64 at most. -/
  diagnostics_eq : after.diagnostics =
    (call.diagnostic? settings outcome).elim d.diagnostics fun entry =>
      (d.diagnostics ++ [entry]).drop (d.diagnostics.length + 1 - 64)
  placed : outcome.Placed call (ws.filter Write.isTable)
  htmls_eq : ws.filter (fun w => !w.isTable) =
    ((call.selection? outcome).bind fun target =>
      target.subheading? settings.sampleLimit).toList.map
        (Write.putHtml Container.detail.subheadingId)

theorem Dashboard.log_diagnostics (d : Dashboard) (level : DiagnosticLevel) (message : String) :
    (d.log level message).diagnostics =
      (d.diagnostics ++ [Diagnostic.mk level message]).drop (d.diagnostics.length + 1 - 64) :=
  Diagnostic.record_eq d.diagnostics ⟨level, message⟩

/-- Only the count of a request depends on the time at which it is made. -/
theorem Call.request?_generation {settings : Settings} {generation : Container → Nat}
    (other : Container → Nat) {call : Call} {r : Request}
    (asked : call.request? settings generation = some r) :
    call.request? settings other = some { r with generation := other r.container } := by
  unfold request? at asked ⊢
  obtain ⟨target, found, rfl⟩ := Option.map_eq_some_iff.1 asked
  rw [found]
  rfl

theorem Call.diagnostic?_of_request {settings : Settings} {generation : Container → Nat}
    {call : Call} {r : Request} (asked : call.request? settings generation = some r)
    (outcome : Outcome) :
    call.diagnostic? settings outcome =
      outcome.level?.map fun level => ⟨level, r.message settings outcome⟩ := by
  unfold diagnostic? message
  rw [Call.request?_generation (fun _ => 0) asked]
  cases outcome <;> rfl

theorem Call.selection?_of_purpose {call : Call} {target : Selection}
    (purpose : call.purpose = .select target) (rows : Nat) :
    call.selection? (.rendered rows) = some target := by
  cases call with
  | activate cell rowKey =>
    obtain rfl : Selection.ofCell cell rowKey = target := by simpa [Call.purpose] using purpose
    rfl
  | render view key => cases purpose
  | renderNamed name key => cases purpose
  | append view key => cases purpose
  | refresh now => cases purpose

theorem Call.selection?_of_render {call : Call} (purpose : call.purpose = .render)
    (outcome : Outcome) : call.selection? outcome = none := by
  cases call with
  | activate cell rowKey => cases purpose
  | render view key => rfl
  | renderNamed name key => rfl
  | append view key => rfl
  | refresh now => rfl

theorem Call.selection?_of_not_rendered (call : Call) (outcome : Outcome)
    (other : ∀ rows, outcome ≠ .rendered rows) : call.selection? outcome = none := by
  cases call <;> cases outcome <;> first | rfl | exact absurd rfl (other _)

/-- A clicked cell opens a view in the detail container. -/
theorem Call.container?_of_purpose {call : Call} {target : Selection}
    (purpose : call.purpose = .select target) : call.container? = some .detail := by
  cases call with
  | activate cell rowKey => cases cell <;> rfl
  | render view key => cases purpose
  | renderNamed name key => cases purpose
  | append view key => cases purpose
  | refresh now => cases purpose

/-- The use of a reply changes what the outcome of its call says. -/
theorem Dashboard.Resumed.booked {settings : Settings} {generation : Container → Nat} {call : Call}
    {d : Dashboard} {r : Request} {reply : Reply} {step : Dashboard.Step Outcome}
    (how : d.Resumed r reply step) (same : d.settings = settings)
    (asked : call.request? settings generation = some r) :
    Booked settings d step.dashboard step.writes call step.result := by
  obtain ⟨about, purpose_eq, -⟩ := Call.request?_eq_some asked
  have entry := Call.diagnostic?_of_request asked
  subst same
  cases how with
  | stale old =>
    have chosen := call.selection?_of_not_rendered .superseded (by simp)
    refine ⟨?_, ?_, rfl, ?_⟩
    · rw [chosen, Dashboard.log_selection, Option.getD_none]
    · rw [entry .superseded, Dashboard.log_diagnostics]
      rfl
    · rw [chosen]
      rfl
  | @failed failure current unread =>
    have chosen := call.selection?_of_not_rendered (.failed failure) (by simp)
    refine ⟨?_, ?_, rfl, ?_⟩
    · rw [chosen, Dashboard.log_selection, Option.getD_none]
    · rw [entry (.failed failure), Dashboard.log_diagnostics]
      rfl
    · rw [chosen]
      rfl
  | rendered current read purpose =>
    rw [purpose_eq] at purpose
    refine ⟨?_, ?_, ⟨_, _, about, rfl⟩, ?_⟩
    · rw [Call.selection?_of_render purpose, Option.getD_none]
    · rw [entry (.rendered _)]
      rfl
    · rw [Call.selection?_of_render purpose]
      rfl
  | @selected rows target current read purpose =>
    rw [purpose_eq] at purpose
    have chosen := Call.selection?_of_purpose purpose rows.length
    have detail : r.container = .detail :=
      Option.some.inj (about.symm.trans (Call.container?_of_purpose purpose))
    generalize shown : target.subheading? d.settings.sampleLimit = html
    refine ⟨?_, ?_, ⟨r.container, Table.render r.view d.settings.zone rows, about, ?_⟩, ?_⟩
    · rw [chosen, Option.getD_some]
    · rw [entry (.rendered rows.length)]
      rfl
    · cases html <;> rfl
    · rw [chosen, detail, Option.bind_some, shown]
      cases html <;> rfl
  | nothing current read purpose =>
    have chosen := call.selection?_of_not_rendered (.appended 0) (by simp)
    refine ⟨?_, ?_, rfl, ?_⟩
    · rw [chosen, Dashboard.log_selection, Option.getD_none]
    · rw [entry (.appended 0), Dashboard.log_diagnostics]
      rfl
    · rw [chosen]
      rfl
  | @added row rows current read purpose =>
    have chosen := call.selection?_of_not_rendered (.appended (rows.length + 1)) (by simp)
    refine ⟨?_, ?_, ⟨_, _, about, rfl⟩, ?_⟩
    · rw [chosen, Option.getD_none]
    · rw [entry (.appended (rows.length + 1))]
      rfl
    · rw [chosen]
      rfl

theorem Call.stamps_not_table (settings : Settings) (call : Call) :
    (call.stamps settings).filter Write.isTable = [] := by
  rcases call.stamps_cases settings with nothing | ⟨html, stamp⟩
  · rw [nothing]
    rfl
  · rw [stamp]
    rfl

/-- A call without a container is over at once. -/
theorem booked_unknown {settings : Settings} {d : Dashboard} {name : String}
    {key : Option DetailKey} (unknown : View.ofName? name = none) (report : String → String) :
    Booked settings d (d.log .failure ((Failure.unknownView name).message report)) []
      (.renderNamed name key) (.failed (.unknownView name)) := by
  have entry : (Call.renderNamed name key).diagnostic? settings (.failed (.unknownView name)) =
      some ⟨.failure, (Failure.unknownView name).message report⟩ := by
    simp [Call.diagnostic?, Call.message, Call.request?, Call.target?, unknown, Outcome.level?,
      Failure.message_unknownView]
  refine ⟨rfl, ?_, rfl, rfl⟩
  rw [entry, Dashboard.log_diagnostics]
  rfl

namespace Run

/-- The calls of the list of finished calls have begun. -/
theorem lt_of_mem_completions (run : Run) {done : Nat × Outcome}
    (member : done ∈ run.completions) : done.1 < run.calls.length := by
  by_contra future
  have own : done ∈ run.completions.filter (fun other => other.1 = done.1) :=
    List.mem_filter.2 ⟨member, by simp⟩
  rw [run.filter_completions, outcomes, run.account_future (by omega)] at own
  cases own

/-- A step that finishes no call writes at most the stamp of a refresh that it begins; a step that
finishes a call changes what the outcome says. -/
theorem step_booked (run : Run) (e : Event) :
    ((run.session.moment e).completions = [] ∧
      (run.extend [e]).session.dashboard.selection = run.session.dashboard.selection ∧
      (run.extend [e]).session.dashboard.diagnostics = run.session.dashboard.diagnostics ∧
      (run.session.moment e).writes =
        e.call?.toList.flatMap (Call.stamps run.settings)) ∨
    ∃ ticket call outcome,
      (run.session.moment e).ticket = ticket ∧
      (run.session.moment e).completions = [(ticket, outcome)] ∧
      (run.extend [e]).calls[ticket]? = some call ∧
      e.call?.toList.flatMap (Call.stamps run.settings) = [] ∧
      Booked run.settings run.session.dashboard (run.extend [e]).session.dashboard
        (run.session.moment e).writes call outcome := by
  have history := run.remembers
  have turn := run.session.step_turn e
  rw [session_extend_one, calls_extend]
  unfold Moment.completions Moment.writes Session.moment
  generalize (run.session.step e).1 = next at turn ⊢
  generalize (run.session.step e).2 = effects at turn ⊢
  cases turn with
  | @asked call r request =>
    refine .inl ⟨?_, rfl, rfl, ?_⟩
    · simp [Effect.completion?, List.filterMap_cons]
    · simp [Effect.write?, Event.call?, history.settings_eq, List.filterMap_cons]
  | @refused name key unknown =>
    refine .inr ⟨run.session.started, .renderNamed name key, .failed (.unknownView name), rfl,
      rfl, ?_, rfl, booked_unknown unknown _⟩
    rw [history.started_eq]
    simp [Event.call?]
  | ignored nobody => exact .inl ⟨rfl, rfl, rfl, rfl⟩
  | @resumed ticket reply r step waits how =>
    obtain ⟨call, found, request⟩ := history.waiting_eq waits
    have known := (List.getElem?_eq_some_iff.1 found).1
    have booked := how.booked history.settings_eq request
    refine .inr ⟨ticket, call, step.result, rfl, ?_, ?_, rfl, ?_⟩
    · simp [Effect.completion?]
    · rw [List.getElem?_append_left known]
      exact found
    · rw [filterMap_write?_ended]
      exact booked

/-- What the finished calls have left behind, in the order in which they came to an end, each with
its ticket. -/
def gather {α : Type} (run : Run) (left : Call → Outcome → Option α) : List (Nat × α) :=
  run.completions.filterMap fun done =>
    (run.calls[done.1]?.bind fun call => left call done.2).map fun a => (done.1, a)

variable {α : Type} {left : Call → Outcome → Option α}

theorem gather_extend_one (run : Run) (e : Event) :
    (run.extend [e]).gather left =
      run.gather left ++ (run.session.moment e).completions.filterMap fun done =>
        ((run.extend [e]).calls[done.1]?.bind fun call => left call done.2).map
          fun a => (done.1, a) := by
  rw [gather, completions_extend_one, List.filterMap_append, gather]
  congr 1
  apply List.filterMap_congr
  intro done member
  rw [calls_extend, List.getElem?_append_left (run.lt_of_mem_completions member)]

/-- A step that finishes no call leaves nothing behind. -/
theorem gather_unfinished (run : Run) {e : Event}
    (unfinished : (run.session.moment e).completions = []) :
    (run.extend [e]).gather left = run.gather left := by
  rw [gather_extend_one, unfinished, List.filterMap_nil, List.append_nil]

theorem gather_finished (run : Run) {e : Event} {ticket : Nat} {call : Call} {outcome : Outcome}
    (finished : (run.session.moment e).completions = [(ticket, outcome)])
    (found : (run.extend [e]).calls[ticket]? = some call) :
    (run.extend [e]).gather left =
      run.gather left ++ (left call outcome).toList.map fun a => (ticket, a) := by
  rw [gather_extend_one, finished, List.filterMap_cons, found, Option.bind_some, List.filterMap_nil]
  cases left call outcome <;> rfl

/-- The selections that have been made, in this order, each with the ticket of its call. -/
def selections (run : Run) : List (Nat × Selection) :=
  run.gather Call.selection?

/-- The whole log: the entries that the finished calls have made, oldest first. -/
def log (run : Run) : List Diagnostic :=
  (run.gather (Call.diagnostic? run.settings)).map Prod.snd

/-- The selection is the one made last. -/
theorem selection_eq (run : Run) :
    run.session.dashboard.selection = (run.selections.map Prod.snd).getLast?.getD .overview := by
  induction run using Run.induction with
  | start settings => rfl
  | step run e ih =>
    rcases run.step_booked e with ⟨unfinished, same, -, -⟩ | ⟨ticket, call, outcome, -, finished,
      found, -, booked⟩
    · rw [same, selections, run.gather_unfinished unfinished]
      exact ih
    · rw [booked.selection_eq, selections, run.gather_finished finished found, ih]
      cases call.selection? outcome with
      | none => simp [selections]
      | some target => simp

/-- Of the log the last 64 entries are kept. -/
theorem diagnostics_eq (run : Run) :
    run.session.dashboard.diagnostics = run.log.drop (run.log.length - 64) := by
  induction run using Run.induction with
  | start settings => rfl
  | step run e ih =>
    rcases run.step_booked e with ⟨unfinished, -, same, -⟩ | ⟨ticket, call, outcome, -, finished,
      found, -, booked⟩
    · rw [same, log, run.gather_unfinished unfinished]
      exact ih
    · rw [booked.diagnostics_eq, log, settings_extend, run.gather_finished finished found, ih]
      cases call.diagnostic? run.settings outcome with
      | none => simp [log]
      | some entry =>
        have kept := Diagnostic.record_newest run.log entry
        rw [Diagnostic.record_eq, Diagnostic.newest_eq, Diagnostic.newest_eq] at kept
        simpa [log] using kept

end Run

end SpanDashboard
