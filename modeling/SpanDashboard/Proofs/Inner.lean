import SpanDashboard.Proofs.Run

/-!
# Inner calls

A click and a refresh are `render_view` with something added: the selection that is made when the
table is there, or the stamp that is written at the beginning. Without what is added the session
goes through the same steps in the same states (`inner_step`), so each click and each refresh comes
to the end that its inner call comes to in the run of the inner calls.
-/

set_option autoImplicit false

namespace SpanDashboard

/-- The call for a table that a click or a refresh contains; the other calls are their own. -/
def Call.inner : Call → Call
  | .activate cell rowKey =>
    .render (Selection.ofCell cell rowKey).view (Selection.ofCell cell rowKey).key?
  | .refresh _ => .render .overview none
  | .render view key => .render view key
  | .renderNamed name key => .renderNamed name key
  | .append view key => .append view key

/-- The event with the inner call in place of the call. -/
def Event.inner : Event → Event
  | .start call => .start call.inner
  | .answer ticket reply => .answer ticket reply

/-- The purpose without a selection. -/
def Purpose.inner : Purpose → Purpose
  | .append => .append
  | .render | .select _ => .render

/-- The request that an inner call makes. -/
def Request.inner (r : Request) : Request :=
  { r with purpose := r.purpose.inner }

/-- A dashboard on which no selection has been made. -/
def Dashboard.inner (d : Dashboard) : Dashboard :=
  { d with selection := .overview }

/-- The session in which only the inner calls have been made. -/
def Session.inner (s : Session) : Session :=
  ⟨s.dashboard.inner, s.started, s.waiting.map fun entry => (entry.1, entry.2.inner)⟩

/-- The run in which only the inner calls are made. -/
def Run.inner (run : Run) : Run :=
  ⟨run.settings, run.events.map Event.inner⟩

namespace Call

theorem purpose_inner (call : Call) : call.inner.purpose = call.purpose.inner := by
  cases call <;> rfl

theorem target?_inner (call : Call) : call.inner.target? = call.target? := by
  cases call <;> rfl

theorem replaces_inner (c : Container) (call : Call) :
    call.inner.replaces c = call.replaces c := by
  unfold replaces container?
  rw [target?_inner]
  cases call <;> rfl

theorem request?_inner (settings : Settings) (generation : Container → Nat) (call : Call) :
    call.inner.request? settings generation =
      (call.request? settings generation).map Request.inner := by
  unfold request?
  rw [target?_inner, purpose_inner, Option.map_map]
  rfl

end Call

theorem Request.staleMessage_inner (r : Request) : r.inner.staleMessage = r.staleMessage := by
  obtain ⟨view, url, generation, purpose⟩ := r
  cases purpose <;> rfl

namespace Dashboard

theorem count_inner (d : Dashboard) (call : Call) :
    d.inner.count call.inner = (d.count call).inner := by
  unfold count inner
  simp only [Call.replaces_inner]

/-- A reply to an inner request has the same outcome and changes the dashboard in the same way,
apart from the selection. -/
theorem resume_inner (d : Dashboard) (r : Request) (reply : Reply) :
    (d.inner.resume r.inner reply).dashboard = (d.resume r reply).dashboard.inner ∧
      (d.inner.resume r.inner reply).result = (d.resume r reply).result := by
  have same : d.inner.isCurrent r.inner = d.isCurrent r := rfl
  unfold resume
  rw [same, r.staleMessage_inner]
  cases d.isCurrent r with
  | false => exact ⟨rfl, rfl⟩
  | true =>
    rw [if_pos rfl, if_pos rfl, show r.inner.view = r.view from rfl]
    cases reply.rows r.view with
    | error failure => exact ⟨rfl, rfl⟩
    | ok rows =>
      obtain ⟨view, url, generation, purpose⟩ := r
      cases purpose with
      | render => exact ⟨rfl, rfl⟩
      | select target => exact ⟨rfl, rfl⟩
      | append => cases rows <;> exact ⟨rfl, rfl⟩

end Dashboard

namespace Session

theorem lookup_inner (s : Session) (ticket : Nat) :
    s.inner.waiting.lookup ticket = (s.waiting.lookup ticket).map Request.inner := by
  unfold inner
  induction s.waiting with
  | nil => rfl
  | cons entry rest ih =>
    obtain ⟨other, r⟩ := entry
    rw [List.map_cons, List.lookup_cons, List.lookup_cons]
    cases ticket == other with
    | true => rfl
    | false => exact ih

/-- The inner calls go through the same steps, and a step finishes the same calls. -/
theorem inner_step (s : Session) (e : Event) :
    (s.inner.step e.inner).1 = (s.step e).1.inner ∧
      (s.inner.step e.inner).2.filterMap Effect.completion? =
        (s.step e).2.filterMap Effect.completion? := by
  cases e with
  | start call =>
    show (s.inner.start call.inner).1 = (s.start call).1.inner ∧ _
    have counted := s.dashboard.count_inner call
    have asks := call.request?_inner s.dashboard.settings (s.dashboard.count call).generation
    cases asked : call.request? s.dashboard.settings (s.dashboard.count call).generation with
    | some r =>
      rw [asked] at asks
      have same : call.inner.request? s.inner.dashboard.settings
          (s.inner.dashboard.count call.inner).generation = some r.inner := by
        rw [show s.inner.dashboard = s.dashboard.inner from rfl, counted]
        exact asks
      simp only [step, Event.inner, start, Dashboard.begin_of_request asked,
        Dashboard.begin_of_request same]
      constructor
      · rw [show s.inner.dashboard = s.dashboard.inner from rfl, counted]
        rfl
      · simp [Effect.completion?, List.filterMap_cons]
    | none =>
      obtain ⟨name, key, rfl, unknown⟩ := Call.request?_eq_none asked
      simp only [step, Event.inner, Call.inner, start, Dashboard.begin_of_unknown unknown]
      exact ⟨rfl, rfl⟩
  | answer ticket reply =>
    show (s.inner.answer ticket reply).1 = (s.answer ticket reply).1.inner ∧ _
    have found := s.lookup_inner ticket
    cases waits : s.waiting.lookup ticket with
    | none =>
      rw [waits] at found
      simp only [step, Event.inner, answer, waits, found, Option.map_none, and_self]
    | some r =>
      rw [waits] at found
      obtain ⟨dashboard_eq, result_eq⟩ := s.dashboard.resume_inner r reply
      rw [show s.dashboard.inner = s.inner.dashboard from rfl] at dashboard_eq result_eq
      simp only [step, Event.inner, answer, waits, found, Option.map_some, dashboard_eq,
        result_eq]
      constructor
      · unfold inner
        rw [List.filter_map]
        rfl
      · simp [Effect.completion?]

end Session

namespace Run

theorem inner_extend_one (run : Run) (e : Event) :
    (run.extend [e]).inner = run.inner.extend [e.inner] := by
  simp [inner, extend]

theorem inner_session (run : Run) : run.inner.session = run.session.inner := by
  induction run using Run.induction with
  | start settings => rfl
  | step run e ih =>
    rw [inner_extend_one, session_extend_one, session_extend_one, ih]
    exact (run.session.inner_step e).1

/-- Every click and every refresh has the outcome of its inner call. -/
theorem inner_completions (run : Run) : run.inner.completions = run.completions := by
  induction run using Run.induction with
  | start settings => rfl
  | step run e ih =>
    rw [inner_extend_one, completions_extend_one, completions_extend_one, ih, inner_session]
    congr 1
    exact (run.session.inner_step e).2

end Run

end SpanDashboard
