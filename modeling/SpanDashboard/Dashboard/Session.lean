import SpanDashboard.Dashboard.Basic

/-!
# Sessions

An `Engine` at work, with its `SpanSource` and its `Surface` around it. Calls are started and
replies come in, in any order; each call has a ticket, by which its reply is given and its outcome
reported. The effects of every step come out in the order in which they happen.
-/

set_option autoImplicit false

namespace SpanDashboard

/-- A dashboard with the requests whose replies it waits for. -/
structure Session where
  dashboard : Dashboard
  /-- How many calls have been started; the next one gets this ticket. -/
  started : Nat
  waiting : List (Nat × Request)

/-- What happens in a step of a session. -/
inductive Effect where
  | write (w : Write)
  /-- A call asks for the records at a URL. -/
  | fetch (ticket : Nat) (url : String)
  /-- A call is over; the selection is the one at that moment. -/
  | completed (ticket : Nat) (outcome : Outcome) (selection : Selection)

/-- A step of a session. -/
inductive Event where
  | start (call : Call)
  | answer (ticket : Nat) (reply : Reply)

namespace Session

/-- A session in which nothing has happened yet. -/
def initial (settings : Settings) : Session :=
  ⟨.initial settings, 0, []⟩

/-- Starts a call. -/
def start (s : Session) (call : Call) : Session × List Effect :=
  let ticket := s.started
  let step := s.dashboard.begin call
  let writes := step.writes.map Effect.write
  match step.result with
  | .waiting r =>
    (⟨step.dashboard, ticket + 1, (ticket, r) :: s.waiting⟩, writes ++ [.fetch ticket r.url])
  | .finished outcome =>
    (⟨step.dashboard, ticket + 1, s.waiting⟩,
      writes ++ [.completed ticket outcome step.dashboard.selection])

/-- Gives the reply to the request of a call; a reply that nobody waits for does nothing. -/
def answer (s : Session) (ticket : Nat) (reply : Reply) : Session × List Effect :=
  match s.waiting.lookup ticket with
  | none => (s, [])
  | some r =>
    let step := s.dashboard.resume r reply
    (⟨step.dashboard, s.started, s.waiting.filter (·.1 ≠ ticket)⟩,
      step.writes.map Effect.write ++ [.completed ticket step.result step.dashboard.selection])

/-- One step. -/
def step (s : Session) : Event → Session × List Effect
  | .start call => s.start call
  | .answer ticket reply => s.answer ticket reply

/-- The session after some events. -/
def after (s : Session) (events : List Event) : Session :=
  events.foldl (fun current event => (current.step event).1) s

/-- What happens at each of some events. -/
def effects (s : Session) : List Event → List (List Effect)
  | [] => []
  | event :: rest =>
    let (next, now) := s.step event
    now :: next.effects rest

theorem after_append (s : Session) (before later : List Event) :
    s.after (before ++ later) = (s.after before).after later := by
  simp [after]

end Session

end SpanDashboard
