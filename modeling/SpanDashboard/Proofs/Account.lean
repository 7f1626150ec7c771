import SpanDashboard.Proofs.Run

/-!
# Accounts

The account of a call is what its steps have done, from its beginning to its end: the effects of the
beginning (`account_unanswered`), and those of the first reply that comes afterwards
(`account_answered`). Nothing is booked on a ticket before its call begins or after its call is
over.
-/

set_option autoImplicit false

namespace SpanDashboard

/-- The effects of the steps that are a part of a call. -/
def Run.account (run : Run) (ticket : Nat) : List Effect :=
  run.journal.flatMap fun m => if m.ticket = ticket then m.effects else []

/-- What has become of a call: nothing as long as it is not over. -/
def Run.outcomes (run : Run) (ticket : Nat) : List Outcome :=
  (run.account ticket).filterMap Effect.outcome?

theorem exists_first_reply {ticket : Nat} {events : List Event}
    (answered : ¬ Unanswered ticket events) :
    ∃ between reply rest, events = between ++ .answer ticket reply :: rest ∧
      Unanswered ticket between := by
  induction events with
  | nil =>
    exfalso
    apply answered
    intro e member
    cases member
  | cons e rest ih =>
    cases first : e.reply? ticket with
    | some reply =>
      cases e with
      | start call => cases first
      | answer other given =>
        by_cases same : other = ticket
        · subst other
          refine ⟨[], given, rest, rfl, ?_⟩
          intro e member
          cases member
        · simp [Event.reply?, same] at first
    | none =>
      have others : ¬ Unanswered ticket rest := by
        intro silent
        exact answered (List.forall_mem_cons.2 ⟨first, silent⟩)
      obtain ⟨between, reply, later, rfl, silent⟩ := ih others
      exact ⟨e :: between, reply, later, rfl, List.forall_mem_cons.2 ⟨first, silent⟩⟩

namespace Session

variable {s : Session} {e : Event} {ticket : Nat}

/-- A reply that nobody waits for has no effects. -/
theorem moment_effects_of_none {reply : Reply} (nobody : s.waiting.lookup ticket = none) :
    (s.moment (.answer ticket reply)).effects = [] := by
  simp [moment, step, answer, nobody]

/-- Only a reply to a call that has begun is a part of it. -/
theorem moment_ticket (known : ticket < s.started) (own : (s.moment e).ticket = ticket) :
    ∃ reply, e = .answer ticket reply := by
  cases e with
  | start call =>
    have new : s.started = ticket := own
    omega
  | answer other reply =>
    obtain rfl : other = ticket := own
    exact ⟨reply, rfl⟩

/-- The effects of a reply that somebody waits for. -/
theorem moment_effects_of_some {r : Request} (waits : s.waiting.lookup ticket = some r)
    (reply : Reply) :
    ∃ step, s.dashboard.Resumed r reply step ∧
      (s.moment (.answer ticket reply)).effects =
        step.writes.map Effect.write ++
          [.completed ticket step.result step.dashboard.selection] := by
  refine ⟨s.dashboard.resume r reply, s.dashboard.resume_resumed r reply, ?_⟩
  simp [moment, Session.step, answer, waits]

/-- A step finishes no call but its own. -/
theorem completions_moment (s : Session) (e : Event) :
    (s.moment e).completions =
      ((s.moment e).effects.filterMap Effect.outcome?).map
        fun outcome => ((s.moment e).ticket, outcome) := by
  have turn := s.step_turn e
  unfold Moment.completions moment
  generalize (s.step e).1 = next at turn
  generalize (s.step e).2 = effects at turn ⊢
  cases turn with
  | asked request => simp [List.filterMap_cons, Effect.completion?, Effect.outcome?]
  | refused unknown => rfl
  | ignored nobody => rfl
  | resumed waits how => simp [Effect.completion?, Effect.outcome?]

end Session

namespace Run

@[simp] theorem account_extend_one (run : Run) (e : Event) (ticket : Nat) :
    (run.extend [e]).account ticket =
      run.account ticket ++
        if (run.session.moment e).ticket = ticket then (run.session.moment e).effects else [] := by
  simp [account]

theorem lt_of_waiting (run : Run) {ticket : Nat} {r : Request}
    (waits : run.session.waiting.lookup ticket = some r) : ticket < run.calls.length := by
  obtain ⟨call, found, -⟩ := run.remembers.waiting_eq waits
  exact (List.getElem?_eq_some_iff.1 found).1

/-- Nobody waits with a ticket that has not been given out. -/
theorem lookup_future (run : Run) {ticket : Nat} (future : run.calls.length ≤ ticket) :
    run.session.waiting.lookup ticket = none := by
  cases waits : run.session.waiting.lookup ticket with
  | none => rfl
  | some r =>
    have begun := run.lt_of_waiting waits
    omega

/-- Nobody waits with the ticket of a call without a container. -/
theorem lookup_unknown (run : Run) {call : Call} (nowhere : call.container? = none) :
    (run.extend [.start call]).session.waiting.lookup run.calls.length = none := by
  have turn := run.session.step_turn (.start call)
  rw [session_extend_one]
  generalize (run.session.step (.start call)).1 = next at turn ⊢
  generalize (run.session.step (.start call)).2 = effects at turn
  cases turn with
  | asked request =>
    obtain ⟨about, -, -⟩ := Call.request?_eq_some request
    rw [nowhere] at about
    cases about
  | refused unknown => exact run.lookup_future (Nat.le_refl _)

/-- A call that waits has begun, has made the request that is kept of it, and has got no reply
since. -/
theorem waiting_since (run : Run) {ticket : Nat} {r : Request}
    (waits : run.session.waiting.lookup ticket = some r) :
    ∃ (before : Run) (call : Call) (between : List Event),
      run = before.extend (.start call :: between) ∧
      before.calls.length = ticket ∧ Unanswered ticket between ∧
      call.request? run.settings (before.extend [.start call]).session.dashboard.generation =
        some r := by
  induction run using Run.induction with
  | start settings => cases waits
  | step run e ih =>
    have known := (run.extend [e]).lt_of_waiting waits
    rw [calls_extend, List.length_append] at known
    have turn := run.session.step_turn e
    by_cases new : ticket < run.calls.length
    · have silent : e.reply? ticket = none := by
        cases e with
        | start call => rfl
        | answer other reply =>
          apply if_neg
          rintro rfl
          rw [session_extend_one, turn.lookup_answered] at waits
          cases waits
      rw [session_extend_one,
        turn.lookup_other (by rw [run.remembers.started_eq]; exact new) silent] at waits
      obtain ⟨before, call, between, rfl, begun, unanswered, request⟩ := ih waits
      refine ⟨before, call, between ++ [e], extend_extend _ _ _, begun, ?_, request⟩
      intro other member
      rcases List.mem_append.1 member with earlier | last
      · exact unanswered other earlier
      · rw [List.mem_singleton.1 last]
        exact silent
    · cases e with
      | answer other reply => exact absurd known new
      | start call =>
        obtain rfl : ticket = run.calls.length := by
          simp [Event.call?] at known
          omega
        cases target : call.container? with
        | none =>
          rw [run.lookup_unknown target] at waits
          cases waits
        | some c =>
          obtain ⟨own, request, begun, -⟩ := run.begun target
          obtain rfl : own = r := Option.some.inj (begun.symm.trans waits)
          refine ⟨run, call, [], rfl, rfl, ?_, request⟩
          intro other member
          cases member

/-- A call that waits has been waiting with the same request ever since it began. -/
theorem waiting_before (run : Run) {ticket : Nat} (known : ticket < run.calls.length)
    {later : List Event} {r : Request}
    (waits : (run.extend later).session.waiting.lookup ticket = some r) :
    Unanswered ticket later ∧ run.session.waiting.lookup ticket = some r := by
  have unanswered : Unanswered ticket later := by
    by_contra answered
    obtain ⟨between, reply, rest, rfl, -⟩ := exists_first_reply answered
    have ended : ((run.extend between).extend [.answer ticket reply]).session.waiting.lookup
        ticket = none := by
      rw [session_extend_one]
      exact (Session.step_turn _ _).lookup_answered
    have still := lookup_extend_none _ (by simp only [calls_extend, List.length_append]; omega)
      ended rest
    rw [extend_extend, extend_extend] at still
    simp only [List.singleton_append] at still
    rw [still] at waits
    cases waits
  refine ⟨unanswered, ?_⟩
  rw [← run.lookup_extend known unanswered]
  exact waits

/-- Nothing is booked on a ticket before its call begins. -/
theorem account_future (run : Run) {ticket : Nat} (future : run.calls.length ≤ ticket) :
    run.account ticket = [] := by
  induction run using Run.induction with
  | start settings => rfl
  | step run e ih =>
    rw [calls_extend, List.length_append] at future
    rw [account_extend_one, ih (by omega), List.nil_append]
    split
    case isFalse => rfl
    case isTrue own =>
      cases e with
      | start call =>
        have new : run.session.started = ticket := own
        rw [run.remembers.started_eq] at new
        simp [Event.call?] at future
        omega
      | answer other reply =>
        obtain rfl : other = ticket := own
        exact Session.moment_effects_of_none (run.lookup_future (by omega))

/-- Nothing is booked on a call without a reply to it. -/
theorem account_extend (run : Run) {ticket : Nat} (known : ticket < run.calls.length)
    {later : List Event} (unanswered : Unanswered ticket later) :
    (run.extend later).account ticket = run.account ticket := by
  induction later generalizing run with
  | nil => rw [extend_nil]
  | cons e rest ih =>
    obtain ⟨first, others⟩ := List.forall_mem_cons.1 unanswered
    rw [extend_cons, ih (run.extend [e]) (by rw [calls_extend, List.length_append]; omega) others,
      account_extend_one]
    split
    case isFalse => rw [List.append_nil]
    case isTrue own =>
      obtain ⟨reply, rfl⟩ :=
        Session.moment_ticket (by rw [run.remembers.started_eq]; exact known) own
      simp [Event.reply?] at first

/-- Nothing is booked on a call that is over. -/
theorem account_extend_none (run : Run) {ticket : Nat} (known : ticket < run.calls.length)
    (ended : run.session.waiting.lookup ticket = none) (later : List Event) :
    (run.extend later).account ticket = run.account ticket := by
  induction later generalizing run with
  | nil => rw [extend_nil]
  | cons e rest ih =>
    rw [extend_cons, ih (run.extend [e]) (by rw [calls_extend, List.length_append]; omega)
      (run.lookup_extend_none known ended [e]), account_extend_one]
    split
    case isFalse => rw [List.append_nil]
    case isTrue own =>
      obtain ⟨reply, rfl⟩ :=
        Session.moment_ticket (by rw [run.remembers.started_eq]; exact known) own
      rw [Session.moment_effects_of_none ended, List.append_nil]

/-- The account of a call that has just begun. -/
theorem account_begun (run : Run) (call : Call) :
    (run.extend [.start call]).account run.calls.length =
      (run.session.moment (.start call)).effects := by
  have own : (run.session.moment (.start call)).ticket = run.calls.length :=
    run.remembers.started_eq
  rw [account_extend_one, run.account_future (Nat.le_refl _), if_pos own, List.nil_append]

/-- The account of a call that has got no reply since it began. -/
theorem account_unanswered (run : Run) (call : Call) {later : List Event}
    (unanswered : Unanswered run.calls.length later) :
    (run.extend (.start call :: later)).account run.calls.length =
      (run.session.moment (.start call)).effects := by
  rw [extend_cons, account_extend _ (by simp [Event.call?]) unanswered, account_begun]

/-- The account of a call that has got a reply: what happens after the first one does not count. -/
theorem account_answered (run : Run) (call : Call) {between : List Event}
    (unanswered : Unanswered run.calls.length between) (reply : Reply) (rest : List Event) :
    (run.extend (.start call :: (between ++ .answer run.calls.length reply :: rest))).account
        run.calls.length =
      (run.session.moment (.start call)).effects ++
        ((run.extend (.start call :: between)).session.moment
          (.answer run.calls.length reply)).effects := by
  have split : run.extend (.start call :: (between ++ .answer run.calls.length reply :: rest)) =
      ((run.extend (.start call :: between)).extend [.answer run.calls.length reply]).extend
        rest := by
    simp [extend]
  have known : run.calls.length < (run.extend (.start call :: between)).calls.length := by
    simp [Event.call?]
  have ended : (((run.extend (.start call :: between)).extend
      [.answer run.calls.length reply]).session.waiting.lookup run.calls.length) = none := by
    rw [session_extend_one]
    exact (Session.step_turn _ _).lookup_answered
  have own : ((run.extend (.start call :: between)).session.moment
      (.answer run.calls.length reply)).ticket = run.calls.length := rfl
  rw [split, account_extend_none _ (by rw [calls_extend, List.length_append]; omega) ended,
    account_extend_one, if_pos own, account_unanswered run call unanswered]

/-- A call that has begun is not over before it gets a reply. -/
theorem outcome_begun (run : Run) {call : Call} {c : Container}
    (target : call.container? = some c) :
    (run.session.moment (.start call)).effects.filterMap Effect.outcome? = [] := by
  obtain ⟨r, -, -, effects_eq⟩ := run.begun target
  rw [effects_eq]
  simp [Effect.outcome?, Effect.completion?, List.filterMap_cons]

/-- The calls that are over are the ones with an outcome. -/
theorem filter_completions (run : Run) (ticket : Nat) :
    run.completions.filter (fun done => done.1 = ticket) =
      (run.outcomes ticket).map fun outcome => (ticket, outcome) := by
  induction run using Run.induction with
  | start settings => rfl
  | step run e ih =>
    rw [completions_extend_one, List.filter_append, ih, Session.completions_moment, outcomes,
      outcomes, account_extend_one, List.filterMap_append, List.map_append, List.filter_map]
    congr 1
    by_cases own : (run.session.moment e).ticket = ticket
    · subst own
      rw [List.filter_eq_self.2 (by simp)]
      simp
    · simp [own, Function.comp_def]

end Run

end SpanDashboard
