import Mathlib.Data.List.Induction
import SpanDashboard.Proofs.Step

/-!
# Runs

A run is a dashboard together with everything that has happened to it. Its calls are numbered by
their tickets, in the order in which they began; its journal has an entry for each step, with the
ticket of the call that the step is a part of and with the effects of the step. `remembers` says
what the session keeps of this history: a container's count is the number of calls that asked for
its table, and a request that still waits is the one of its call, with the count of that time.
-/

set_option autoImplicit false

namespace SpanDashboard

/-- The call that an event starts. -/
def Event.call? : Event → Option Call
  | .start call => some call
  | .answer _ _ => none

/-- The reply that an event gives to a call. -/
def Event.reply? (ticket : Nat) : Event → Option Reply
  | .start _ => none
  | .answer other reply => if other = ticket then some reply else none

/-- The write that an effect is. -/
def Effect.write? : Effect → Option Write
  | .write w => some w
  | .fetch _ _ | .completed _ _ _ => none

/-- The ticket and the outcome of a call that is over. -/
def Effect.completion? : Effect → Option (Nat × Outcome)
  | .completed ticket outcome _ => some (ticket, outcome)
  | .write _ | .fetch _ _ => none

/-- The outcome of a call that is over. -/
def Effect.outcome? (effect : Effect) : Option Outcome :=
  effect.completion?.map Prod.snd

@[simp] theorem filterMap_write?_write (ws : List Write) :
    ws.filterMap (Effect.write? ∘ Effect.write) = ws :=
  List.filterMap_some

@[simp] theorem filterMap_completion?_write (ws : List Write) :
    ws.filterMap (Effect.completion? ∘ Effect.write) = [] :=
  List.filterMap_eq_nil_iff.2 fun _ _ => rfl

@[simp] theorem filterMap_outcome?_write (ws : List Write) :
    ws.filterMap (Effect.outcome? ∘ Effect.write) = [] :=
  List.filterMap_eq_nil_iff.2 fun _ _ => rfl

/-- A step that ends a call has written what comes before the end. -/
theorem filterMap_write?_ended (ws : List Write) (ticket : Nat) (outcome : Outcome)
    (selection : Selection) :
    (ws.map Effect.write ++ [Effect.completed ticket outcome selection]).filterMap Effect.write? =
      ws := by
  simp [Effect.write?, List.filterMap_cons]

/-- Whether a call gets no reply in some events. -/
def Unanswered (ticket : Nat) (events : List Event) : Prop :=
  ∀ e ∈ events, e.reply? ticket = none

/-- How many of some calls ask for a new table in a container. -/
def replacements (c : Container) (calls : List Call) : Nat :=
  calls.countP (Call.replaces c)

theorem replacements_append (c : Container) (first later : List Call) :
    replacements c (first ++ later) = replacements c first + replacements c later :=
  List.countP_append

/-- An entry of the journal: a step, the call that it is a part of, and its effects. -/
structure Moment where
  ticket : Nat
  event : Event
  effects : List Effect

namespace Moment

/-- The writes of a step. -/
def writes (m : Moment) : List Write :=
  m.effects.filterMap Effect.write?

/-- The calls that a step finishes. -/
def completions (m : Moment) : List (Nat × Outcome) :=
  m.effects.filterMap Effect.completion?

end Moment

namespace Session

/-- The entry of the journal for a step. -/
def moment (s : Session) (e : Event) : Moment :=
  let ticket :=
    match e with
    | .start _ => s.started
    | .answer ticket _ => ticket
  ⟨ticket, e, (s.step e).2⟩

/-- The entries of the journal for some events. -/
def journal (s : Session) : List Event → List Moment
  | [] => []
  | e :: rest => s.moment e :: (s.step e).1.journal rest

/-- The journal leaves out no effect. -/
theorem map_effects_journal (s : Session) (events : List Event) :
    (s.journal events).map Moment.effects = s.effects events := by
  induction events generalizing s with
  | nil => rfl
  | cons e rest ih =>
    simp only [journal, List.map_cons, ih, effects]
    rfl

theorem journal_append (s : Session) (before later : List Event) :
    s.journal (before ++ later) = s.journal before ++ (s.after before).journal later := by
  induction before generalizing s with
  | nil => rfl
  | cons e rest ih => simp [journal, ih, after]

end Session

/-- A dashboard with its settings and everything that has happened to it so far. -/
structure Run where
  settings : Settings
  events : List Event

namespace Run

/-- The run after some more events. -/
def extend (run : Run) (later : List Event) : Run :=
  ⟨run.settings, run.events ++ later⟩

/-- The session at the end of a run. -/
def session (run : Run) : Session :=
  (Session.initial run.settings).after run.events

/-- The calls of a run in the order in which they began; each stands at its ticket. -/
def calls (run : Run) : List Call :=
  run.events.filterMap Event.call?

/-- The steps of a run with their effects. -/
def journal (run : Run) : List Moment :=
  (Session.initial run.settings).journal run.events

/-- What has been written, in this order. -/
def writes (run : Run) : List Write :=
  run.journal.flatMap Moment.writes

/-- The calls that are over, in the order in which they came to an end. -/
def completions (run : Run) : List (Nat × Outcome) :=
  run.journal.flatMap Moment.completions

/-- Every run is built from an empty one, event by event. -/
@[elab_as_elim]
theorem induction {P : Run → Prop} (start : ∀ settings, P ⟨settings, []⟩)
    (step : ∀ run e, P run → P (run.extend [e])) (run : Run) : P run := by
  obtain ⟨settings, events⟩ := run
  induction events using List.reverseRecOn with
  | nil => exact start settings
  | append_singleton before e ih => exact step ⟨settings, before⟩ e ih

@[simp] theorem settings_extend (run : Run) (later : List Event) :
    (run.extend later).settings = run.settings := rfl

@[simp] theorem extend_nil (run : Run) : run.extend [] = run := by
  simp [extend]

theorem extend_extend (run : Run) (first later : List Event) :
    (run.extend first).extend later = run.extend (first ++ later) := by
  simp [extend]

theorem extend_cons (run : Run) (e : Event) (later : List Event) :
    run.extend (e :: later) = (run.extend [e]).extend later := by
  simp [extend]

theorem session_extend (run : Run) (later : List Event) :
    (run.extend later).session = run.session.after later := by
  rw [session, session, ← Session.after_append]
  rfl

@[simp] theorem session_extend_one (run : Run) (e : Event) :
    (run.extend [e]).session = (run.session.step e).1 :=
  session_extend run [e]

@[simp] theorem calls_extend (run : Run) (later : List Event) :
    (run.extend later).calls = run.calls ++ later.filterMap Event.call? :=
  List.filterMap_append

/-- A call keeps its ticket. -/
theorem getElem?_calls_extend (run : Run) {ticket : Nat} {call : Call}
    (begun : run.calls[ticket]? = some call) (later : List Event) :
    (run.extend later).calls[ticket]? = some call := by
  rw [calls_extend, List.getElem?_append_left (List.getElem?_eq_some_iff.1 begun).1]
  exact begun

@[simp] theorem journal_extend_one (run : Run) (e : Event) :
    (run.extend [e]).journal = run.journal ++ [run.session.moment e] :=
  Session.journal_append (Session.initial run.settings) run.events [e]

@[simp] theorem writes_extend_one (run : Run) (e : Event) :
    (run.extend [e]).writes = run.writes ++ (run.session.moment e).writes := by
  simp [writes]

@[simp] theorem completions_extend_one (run : Run) (e : Event) :
    (run.extend [e]).completions = run.completions ++ (run.session.moment e).completions := by
  simp [completions]

end Run

/-! ## What is kept of the history -/

namespace Dashboard.Resumed

variable {d : Dashboard} {r : Request} {reply : Reply} {step : Dashboard.Step Outcome}

/-- The use of a reply counts as no request. -/
theorem generation_eq (how : d.Resumed r reply step) :
    step.dashboard.generation = d.generation := by
  cases how <;> rfl

theorem settings_eq (how : d.Resumed r reply step) : step.dashboard.settings = d.settings := by
  cases how <;> rfl

/-- A reply comes too late exactly if the count has changed. -/
theorem superseded_iff_generation (how : d.Resumed r reply step) :
    step.result = .superseded ↔ d.generation r.container ≠ r.generation := by
  cases how with
  | stale old => exact ⟨fun _ => old, fun _ => rfl⟩
  | failed current _ => simp [current]
  | rendered current _ _ => simp [current]
  | selected current _ _ => simp [current]
  | nothing current _ _ => simp [current]
  | added current _ _ => simp [current]

end Dashboard.Resumed

namespace Session

theorem lookup_filter_self (ticket : Nat) (waiting : List (Nat × Request)) :
    (waiting.filter (·.1 ≠ ticket)).lookup ticket = none := by
  rw [List.lookup_eq_none_iff]
  intro entry kept
  have different : entry.1 ≠ ticket := by simpa using (List.mem_filter.1 kept).2
  exact bne_iff_ne.2 different.symm

theorem lookup_filter_of_ne {ticket other : Nat} (different : other ≠ ticket)
    (waiting : List (Nat × Request)) :
    (waiting.filter (·.1 ≠ ticket)).lookup other = waiting.lookup other := by
  induction waiting with
  | nil => rfl
  | cons entry rest ih =>
    obtain ⟨key, r⟩ := entry
    by_cases same : key = ticket
    · subst key
      have skipped : (other == ticket) = false := by simpa using different
      simpa [List.lookup_cons, skipped] using ih
    · rw [List.filter_cons_of_pos (by simpa using same), List.lookup_cons, List.lookup_cons, ih]

namespace Turn

variable {s next : Session} {e : Event} {effects : List Effect}

theorem settings_eq (turn : Turn s e next effects) :
    next.dashboard.settings = s.dashboard.settings := by
  cases turn with
  | asked request => rfl
  | refused unknown => rfl
  | ignored nobody => rfl
  | resumed waits how => exact how.settings_eq

theorem started_eq (turn : Turn s e next effects) :
    next.started = s.started + e.call?.toList.length := by
  cases turn <;> rfl

/-- Only the beginning of a call that asks for a table is counted. -/
theorem generation_eq (turn : Turn s e next effects) (c : Container) :
    next.dashboard.generation c = s.dashboard.generation c + replacements c e.call?.toList := by
  cases turn with
  | asked request =>
    simp [Dashboard.count, replacements, Event.call?, List.countP_singleton]
  | refused unknown =>
    simp [replacements, Event.call?, Call.replaces, Call.container?, Call.target?, unknown]
  | ignored nobody => rfl
  | resumed waits how => exact congrFun how.generation_eq c

/-- A call goes on waiting until it gets a reply. -/
theorem lookup_other (turn : Turn s e next effects) {ticket : Nat} (known : ticket < s.started)
    (unanswered : e.reply? ticket = none) :
    next.waiting.lookup ticket = s.waiting.lookup ticket := by
  cases turn with
  | asked request =>
    have other : (ticket == s.started) = false := by simpa using Nat.ne_of_lt known
    simp [List.lookup_cons, other]
  | refused unknown => rfl
  | ignored nobody => rfl
  | @resumed answered reply r step waits how =>
    have other : ticket ≠ answered := by
      rintro rfl
      simp [Event.reply?] at unanswered
    exact lookup_filter_of_ne other s.waiting

/-- A call waits no longer once it has got a reply. -/
theorem lookup_answered {ticket : Nat} {reply : Reply}
    (turn : Turn s (.answer ticket reply) next effects) :
    next.waiting.lookup ticket = none := by
  cases turn with
  | ignored nobody => exact nobody
  | resumed waits how => exact lookup_filter_self ticket s.waiting

end Turn

/-- What a session keeps of its settings and of the calls that have begun. -/
structure Remembers (settings : Settings) (calls : List Call) (s : Session) : Prop where
  settings_eq : s.dashboard.settings = settings
  started_eq : s.started = calls.length
  generation_eq : ∀ c, s.dashboard.generation c = replacements c calls
  waiting_eq : ∀ {ticket r}, s.waiting.lookup ticket = some r →
    ∃ call, calls[ticket]? = some call ∧
      call.request? settings (fun c => replacements c (calls.take (ticket + 1))) = some r

theorem remembers_initial (settings : Settings) : Remembers settings [] (initial settings) where
  settings_eq := rfl
  started_eq := rfl
  generation_eq _ := rfl
  waiting_eq found := by cases found

/-- What is remembered of a waiting request does not depend on the calls after it. -/
theorem Remembers.waiting_append {settings : Settings} {calls : List Call} {s : Session}
    (history : Remembers settings calls s) (later : List Call) {ticket : Nat} {r : Request}
    (waits : s.waiting.lookup ticket = some r) :
    ∃ call, (calls ++ later)[ticket]? = some call ∧
      call.request? settings
        (fun c => replacements c ((calls ++ later).take (ticket + 1))) = some r := by
  obtain ⟨call, found, request⟩ := history.waiting_eq waits
  obtain ⟨bound, -⟩ := List.getElem?_eq_some_iff.1 found
  refine ⟨call, ?_, ?_⟩
  · rw [List.getElem?_append_left bound]
    exact found
  · rw [List.take_append_of_le_length (by omega)]
    exact request

theorem Remembers.step {settings : Settings} {calls : List Call} {s next : Session} {e : Event}
    {effects : List Effect} (history : Remembers settings calls s)
    (turn : Turn s e next effects) :
    Remembers settings (calls ++ e.call?.toList) next where
  settings_eq := turn.settings_eq.trans history.settings_eq
  started_eq := by
    rw [turn.started_eq, history.started_eq, List.length_append]
  generation_eq c := by
    rw [turn.generation_eq, history.generation_eq, replacements_append]
  waiting_eq {ticket r} waits := by
    cases turn with
    | @asked call own request =>
      by_cases new : ticket = s.started
      · obtain rfl : own = r := by simpa [List.lookup_cons, new] using waits
        have counted : (s.dashboard.count call).generation =
            fun c => replacements c (calls ++ [call]) := by
          funext c
          rw [replacements_append, ← history.generation_eq]
          simp [Dashboard.count, replacements, List.countP_singleton]
        rw [counted, history.settings_eq] at request
        rw [new, history.started_eq]
        refine ⟨call, by simp [Event.call?], ?_⟩
        rw [List.take_of_length_le (by simp [Event.call?])]
        exact request
      · have older : (ticket == s.started) = false := by simpa using new
        rw [List.lookup_cons, older] at waits
        exact history.waiting_append _ waits
    | refused unknown => exact history.waiting_append _ waits
    | ignored nobody => exact history.waiting_append _ waits
    | @resumed answered reply r' step found how =>
      have other : ticket ≠ answered := by
        rintro rfl
        rw [lookup_filter_self] at waits
        cases waits
      rw [lookup_filter_of_ne other] at waits
      exact history.waiting_append _ waits

end Session

namespace Run

/-- The session at the end of a run remembers the calls of the run. -/
theorem remembers (run : Run) : run.session.Remembers run.settings run.calls := by
  induction run using Run.induction with
  | start settings => exact Session.remembers_initial settings
  | step run e history =>
    have next := history.step (run.session.step_turn e)
    rw [session_extend_one, calls_extend]
    cases e <;> exact next

/-- A count never exceeds the number of calls. -/
theorem generation_le (run : Run) (c : Container) :
    run.session.dashboard.generation c ≤ run.calls.length := by
  rw [run.remembers.generation_eq c]
  exact List.countP_le_length

/-- A call that has begun goes on waiting as long as it gets no reply. -/
theorem lookup_extend (run : Run) {ticket : Nat} (known : ticket < run.calls.length)
    {later : List Event} (unanswered : Unanswered ticket later) :
    (run.extend later).session.waiting.lookup ticket = run.session.waiting.lookup ticket := by
  induction later generalizing run with
  | nil => rw [extend_nil]
  | cons e rest ih =>
    obtain ⟨first, others⟩ := List.forall_mem_cons.1 unanswered
    rw [extend_cons, ih (run.extend [e]) (by rw [calls_extend, List.length_append]; omega) others,
      session_extend_one]
    exact (run.session.step_turn e).lookup_other (by rw [run.remembers.started_eq]; omega) first

/-- A call that has stopped waiting does not wait again. -/
theorem lookup_extend_none (run : Run) {ticket : Nat} (known : ticket < run.calls.length)
    (ended : run.session.waiting.lookup ticket = none) (later : List Event) :
    (run.extend later).session.waiting.lookup ticket = none := by
  induction later generalizing run with
  | nil => rwa [extend_nil]
  | cons e rest ih =>
    rw [extend_cons]
    refine ih (run.extend [e]) (by rw [calls_extend, List.length_append]; omega) ?_
    rw [session_extend_one]
    have turn := run.session.step_turn e
    cases answered : e.reply? ticket with
    | none =>
      rw [turn.lookup_other (by rw [run.remembers.started_eq]; omega) answered]
      exact ended
    | some reply =>
      cases e with
      | start call => cases answered
      | answer other given =>
        by_cases same : other = ticket
        · subst other
          exact turn.lookup_answered
        · simp [Event.reply?, same] at answered

/-- A call for a container begins with its stamp and its request, and waits for the reply. -/
theorem begun (run : Run) {call : Call} {c : Container} (target : call.container? = some c) :
    ∃ r, call.request? run.settings (run.extend [.start call]).session.dashboard.generation =
        some r ∧
      (run.extend [.start call]).session.waiting.lookup run.calls.length = some r ∧
      (run.session.moment (.start call)).effects =
        (call.stamps run.settings).map Effect.write ++ [.fetch run.calls.length r.url] := by
  have history := run.remembers
  have turn := run.session.step_turn (.start call)
  rw [session_extend_one]
  unfold Session.moment
  generalize (run.session.step (.start call)).1 = next at turn ⊢
  generalize (run.session.step (.start call)).2 = effects at turn ⊢
  cases turn with
  | @asked call r request =>
    rw [history.settings_eq] at request
    refine ⟨r, request, ?_, ?_⟩
    · rw [history.started_eq]
      simp
    · rw [history.started_eq, history.settings_eq]
  | refused unknown => simp [Call.container?, Call.target?, unknown] at target

end Run

end SpanDashboard
