import SpanDashboard.Dashboard.Session

/-!
# What a step does

The five calls of the `Engine` differ in the view that they ask for, in what the reply is for, and
in the stamp of a refresh; otherwise they begin alike. `step_turn` lists everything that one step of
a session can do: a call asks for records, or names no view; a reply finds nobody waiting, or it is
used in one of the ways of `Resumed`. What holds along every run is derived from these two lists.
-/

set_option autoImplicit false

namespace SpanDashboard

namespace Call

/-- The view that a call asks for and the key of its endpoint. Only a call with a name that no view
has asks for nothing. -/
def target? : Call → Option (View × Option DetailKey)
  | .render view key | .append view key => some (view, key)
  | .renderNamed name key => (View.ofName? name).map fun view => (view, key)
  | .activate cell rowKey =>
    some ((Selection.ofCell cell rowKey).view, (Selection.ofCell cell rowKey).key?)
  | .refresh _ => some (.overview, none)

/-- The container that a call is for. -/
def container? (call : Call) : Option Container :=
  call.target?.map fun target => target.1.container

/-- What the reply to a call will be used for. -/
def purpose : Call → Purpose
  | .append _ _ => .append
  | .activate cell rowKey => .select (.ofCell cell rowKey)
  | .render _ _ | .renderNamed _ _ | .refresh _ => .render

/-- Whether a call asks for a new table in a container. -/
def replaces (c : Container) (call : Call) : Bool :=
  call.purpose ≠ .append && call.container? = some c

/-- What a call writes at its beginning. -/
def stamps (settings : Settings) : Call → List Write
  | .refresh now => [.putHtml refreshStampId (Timestamp.text settings.zone now)]
  | .render _ _ | .renderNamed _ _ | .append _ _ | .activate _ _ => []

/-- The request of a call, with the counts of the containers at that time. -/
def request? (settings : Settings) (generation : Container → Nat) (call : Call) : Option Request :=
  call.target?.map fun target =>
    ⟨target.1, settings.url (target.1.path target.2), generation target.1.container, call.purpose⟩

theorem request?_eq_some {settings : Settings} {generation : Container → Nat} {call : Call}
    {r : Request} (asked : call.request? settings generation = some r) :
    call.container? = some r.container ∧ r.purpose = call.purpose ∧
      r.generation = generation r.container := by
  unfold request? at asked
  obtain ⟨target, found, rfl⟩ := Option.map_eq_some_iff.1 asked
  refine ⟨?_, rfl, rfl⟩
  rw [container?, found]
  rfl

theorem container?_of_target {call : Call} {view : View} {key : Option DetailKey}
    (target : call.target? = some (view, key)) : call.container? = some view.container := by
  rw [container?, target]
  rfl

/-- The request of a call is for the view that the call asks for. -/
theorem view_eq_of_target {settings : Settings} {generation : Container → Nat} {call : Call}
    {r : Request} (asked : call.request? settings generation = some r) {view : View}
    {key : Option DetailKey} (target : call.target? = some (view, key)) : r.view = view := by
  rw [request?, target] at asked
  rw [← Option.some.inj asked]

/-- A call writes at most the stamp of a refresh at its beginning. -/
theorem stamps_cases (settings : Settings) (call : Call) :
    call.stamps settings = [] ∨ ∃ html, call.stamps settings = [.putHtml refreshStampId html] := by
  cases call with
  | refresh now => exact .inr ⟨_, rfl⟩
  | render view key => exact .inl rfl
  | renderNamed name key => exact .inl rfl
  | append view key => exact .inl rfl
  | activate cell rowKey => exact .inl rfl

theorem request?_eq_none {settings : Settings} {generation : Container → Nat} {call : Call}
    (nothing : call.request? settings generation = none) :
    ∃ name key, call = .renderNamed name key ∧ View.ofName? name = none := by
  cases call with
  | renderNamed name key =>
    refine ⟨name, key, rfl, ?_⟩
    simpa [request?, target?] using nothing
  | render view key => simp [request?, target?] at nothing
  | append view key => simp [request?, target?] at nothing
  | activate cell rowKey => simp [request?, target?] at nothing
  | refresh now => simp [request?, target?] at nothing

end Call

namespace Dashboard

/-- The dashboard after a call that may replace a table has been counted. -/
def count (d : Dashboard) (call : Call) : Dashboard :=
  { d with generation := fun c => d.generation c + if call.replaces c then 1 else 0 }

theorem requestTable_eq (d : Dashboard) (call : Call) {view : View} {key : Option DetailKey}
    (target : call.target? = some (view, key)) (replacing : call.purpose ≠ .append) :
    d.requestTable call.purpose view key =
      ⟨d.count call, [], .waiting ⟨view, d.settings.url (view.path key),
        (d.count call).generation view.container, call.purpose⟩⟩ := by
  have counted : d.advance view.container = d.count call := by
    unfold advance count
    congr 1
    funext c
    simp [Call.replaces, Call.container?, target, replacing, eq_comm]
  rw [requestTable, counted]
  rfl

/-- All calls that ask for a view begin alike. -/
theorem begin_of_request {d : Dashboard} {call : Call} {r : Request}
    (asked : call.request? d.settings (d.count call).generation = some r) :
    d.begin call = ⟨d.count call, call.stamps d.settings, .waiting r⟩ := by
  unfold Call.request? at asked
  obtain ⟨⟨view, key⟩, target, rfl⟩ := Option.map_eq_some_iff.1 asked
  cases call with
  | render v k =>
    obtain ⟨rfl, rfl⟩ : v = view ∧ k = key := by simpa [Call.target?] using target
    exact requestTable_eq d (.render v k) target (by simp [Call.purpose])
  | renderNamed name k =>
    obtain ⟨v, named, same⟩ := Option.map_eq_some_iff.1 target
    obtain ⟨rfl, rfl⟩ : v = view ∧ k = key := by simpa using same
    rw [begin, named]
    exact requestTable_eq d (.renderNamed name k) target (by simp [Call.purpose])
  | append v k =>
    obtain ⟨rfl, rfl⟩ : v = view ∧ k = key := by simpa [Call.target?] using target
    have uncounted : d.count (.append v k) = d := by
      simp [count, Call.replaces, Call.purpose]
    rw [uncounted]
    rfl
  | activate cell rowKey =>
    obtain ⟨rfl, rfl⟩ : (Selection.ofCell cell rowKey).view = view ∧
        (Selection.ofCell cell rowKey).key? = key := by simpa [Call.target?] using target
    exact requestTable_eq d (.activate cell rowKey) target (by simp [Call.purpose])
  | refresh now =>
    obtain ⟨rfl, rfl⟩ : View.overview = view ∧ none = key := by simpa [Call.target?] using target
    have table := requestTable_eq d (.refresh now) target (by simp [Call.purpose])
    rw [begin, show Purpose.render = (Call.refresh now).purpose from rfl, table]
    rfl

/-- A call that names no view is over at once. -/
theorem begin_of_unknown {d : Dashboard} {name : String} {key : Option DetailKey}
    (unknown : View.ofName? name = none) :
    d.begin (.renderNamed name key) =
      ⟨d.log .failure ((Failure.unknownView name).message d.settings.syntaxReport), [],
        .finished (.failed (.unknownView name))⟩ := by
  rw [begin, unknown]

/-- The ways in which a reply is used. -/
inductive Resumed (d : Dashboard) (r : Request) (reply : Reply) : Step Outcome → Prop where
  | stale (old : d.generation r.container ≠ r.generation) :
      Resumed d r reply ⟨d.log .debug r.staleMessage, [], .superseded⟩
  | failed {failure : Failure} (current : d.generation r.container = r.generation)
      (unread : reply.rows r.view = .error failure) :
      Resumed d r reply
        ⟨d.log .failure (r.subject ++ ": " ++ failure.message d.settings.syntaxReport), [],
          .failed failure⟩
  | rendered {rows : List Row} (current : d.generation r.container = r.generation)
      (read : reply.rows r.view = .ok rows) (purpose : r.purpose = .render) :
      Resumed d r reply
        ⟨d, [.putTable r.container.id (Table.render r.view d.settings.zone rows)],
          .rendered rows.length⟩
  | selected {rows : List Row} {target : Selection}
      (current : d.generation r.container = r.generation)
      (read : reply.rows r.view = .ok rows) (purpose : r.purpose = .select target) :
      Resumed d r reply
        ⟨{ d with selection := target },
          .putTable r.container.id (Table.render r.view d.settings.zone rows) ::
            ((target.subheading? d.settings.sampleLimit).map
              (Write.putHtml r.container.subheadingId)).toList,
          .rendered rows.length⟩
  | nothing (current : d.generation r.container = r.generation)
      (read : reply.rows r.view = .ok []) (purpose : r.purpose = .append) :
      Resumed d r reply
        ⟨d.log .note ("No rows added for " ++ r.view.name ++ " table"), [], .appended 0⟩
  | added {row : Row} {rows : List Row} (current : d.generation r.container = r.generation)
      (read : reply.rows r.view = .ok (row :: rows)) (purpose : r.purpose = .append) :
      Resumed d r reply
        ⟨d, [.addRows r.container.id (Table.render r.view d.settings.zone (row :: rows)).body],
          .appended (rows.length + 1)⟩

theorem resume_resumed (d : Dashboard) (r : Request) (reply : Reply) :
    Resumed d r reply (d.resume r reply) := by
  unfold resume isCurrent
  by_cases current : d.generation r.container = r.generation
  · rw [if_pos (beq_iff_eq.2 current)]
    cases read : reply.rows r.view with
    | error failure => exact .failed current read
    | ok rows =>
      cases purpose : r.purpose with
      | render => simpa [commit, purpose] using Resumed.rendered current read purpose
      | select target => simpa [commit, purpose] using Resumed.selected current read purpose
      | append =>
        cases rows with
        | nil => simpa [commit, purpose] using Resumed.nothing current read purpose
        | cons row rows => simpa [commit, purpose] using Resumed.added current read purpose
  · rw [if_neg (by simpa using current)]
    exact .stale current

end Dashboard

namespace Session

/-- Everything that a step of a session can do. -/
inductive Turn (s : Session) : Event → Session → List Effect → Prop where
  | asked {call : Call} {r : Request}
      (request : call.request? s.dashboard.settings (s.dashboard.count call).generation = some r) :
      Turn s (.start call)
        ⟨s.dashboard.count call, s.started + 1, (s.started, r) :: s.waiting⟩
        ((call.stamps s.dashboard.settings).map Effect.write ++ [.fetch s.started r.url])
  | refused {name : String} {key : Option DetailKey} (unknown : View.ofName? name = none) :
      Turn s (.start (.renderNamed name key))
        ⟨s.dashboard.log .failure
            ((Failure.unknownView name).message s.dashboard.settings.syntaxReport),
          s.started + 1, s.waiting⟩
        [.completed s.started (.failed (.unknownView name)) s.dashboard.selection]
  | ignored {ticket : Nat} {reply : Reply} (nobody : s.waiting.lookup ticket = none) :
      Turn s (.answer ticket reply) s []
  | resumed {ticket : Nat} {reply : Reply} {r : Request} {step : Dashboard.Step Outcome}
      (waits : s.waiting.lookup ticket = some r) (how : s.dashboard.Resumed r reply step) :
      Turn s (.answer ticket reply)
        ⟨step.dashboard, s.started, s.waiting.filter (·.1 ≠ ticket)⟩
        (step.writes.map Effect.write ++
          [.completed ticket step.result step.dashboard.selection])

theorem step_turn (s : Session) (e : Event) : Turn s e (s.step e).1 (s.step e).2 := by
  cases e with
  | start call =>
    show Turn s (.start call) (s.start call).1 (s.start call).2
    cases asked : call.request? s.dashboard.settings (s.dashboard.count call).generation with
    | some r =>
      simp only [start, Dashboard.begin_of_request asked]
      exact .asked asked
    | none =>
      obtain ⟨name, key, rfl, unknown⟩ := Call.request?_eq_none asked
      simp only [start, Dashboard.begin_of_unknown unknown]
      exact .refused unknown
  | answer ticket reply =>
    show Turn s (.answer ticket reply) (s.answer ticket reply).1 (s.answer ticket reply).2
    cases waits : s.waiting.lookup ticket with
    | none =>
      simp only [answer, waits]
      exact .ignored waits
    | some r =>
      simp only [answer, waits]
      exact .resumed waits (s.dashboard.resume_resumed r reply)

end Session

end SpanDashboard
