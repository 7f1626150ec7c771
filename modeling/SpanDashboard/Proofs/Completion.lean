import SpanDashboard.Proofs.Bookkeeping
import SpanDashboard.Proofs.Inner

/-!
# Every call is accounted for

A call has exactly one outcome once it has got a reply, or at once if it names no view, and none
before. Its outcome says what it has written to the tables, whether it has made a selection, and
what it has logged; of the log the last 64 entries are kept. So a call that fails, comes too late or
brings no rows leaves the page and the selection as they were.
-/

set_option autoImplicit false

namespace SpanDashboard.Run

/-- What a call has written to the tables. -/
def tableWrites (run : Run) (ticket : Nat) : List Write :=
  ((run.account ticket).filterMap Effect.write?).filter Write.isTable

/-- The beginning of a call for a container changes no table. -/
theorem tables_begun (run : Run) {call : Call} {c : Container}
    (target : call.container? = some c) :
    ((run.session.moment (.start call)).effects.filterMap Effect.write?).filter
      Write.isTable = [] := by
  obtain ⟨r, -, -, effects_eq⟩ := run.begun target
  rw [effects_eq]
  simpa [Effect.write?, List.filterMap_cons] using call.stamps_not_table run.settings

/-- A call without a container is over at once. -/
theorem account_unknown (run : Run) {call : Call} (nowhere : call.container? = none)
    (later : List Event) :
    ∃ failure selection,
      (run.extend (.start call :: later)).account run.calls.length =
        [.completed run.calls.length (.failed failure) selection] := by
  have history := run.remembers
  have turn := run.session.step_turn (.start call)
  rw [extend_cons, account_extend_none _ (by simp [Event.call?]) (run.lookup_unknown nowhere),
    account_begun]
  unfold Session.moment
  generalize (run.session.step (.start call)).1 = next at turn
  generalize (run.session.step (.start call)).2 = effects at turn ⊢
  cases turn with
  | asked request =>
    obtain ⟨about, -, -⟩ := Call.request?_eq_some request
    rw [nowhere] at about
    cases about
  | @refused name key unknown =>
    refine ⟨.unknownView name, run.session.dashboard.selection, ?_⟩
    rw [history.started_eq]

/-- A call for a container that has got no reply is not over and has changed no table. -/
theorem unfinished (run : Run) {call : Call} {c : Container} (target : call.container? = some c)
    {later : List Event} (unanswered : Unanswered run.calls.length later) :
    (run.extend (.start call :: later)).outcomes run.calls.length = [] ∧
      (run.extend (.start call :: later)).tableWrites run.calls.length = [] := by
  unfold outcomes tableWrites
  rw [account_unanswered run call unanswered]
  exact ⟨run.outcome_begun target, run.tables_begun target⟩

/-- A call that has got a reply has one outcome, which says what it has written to the tables. -/
theorem finished (run : Run) {call : Call} {c : Container} (target : call.container? = some c)
    {later : List Event} (answered : ¬ Unanswered run.calls.length later) :
    ∃ outcome,
      (run.extend (.start call :: later)).outcomes run.calls.length = [outcome] ∧
      outcome.Placed call ((run.extend (.start call :: later)).tableWrites run.calls.length) := by
  obtain ⟨between, reply, rest, rfl, silent⟩ := exists_first_reply answered
  obtain ⟨r, request, begun, -⟩ := run.begun target
  have waits : (run.extend (.start call :: between)).session.waiting.lookup run.calls.length =
      some r := by
    rw [extend_cons, lookup_extend _ (by simp [Event.call?]) silent]
    exact begun
  obtain ⟨step, how, effects_eq⟩ := Session.moment_effects_of_some waits reply
  have booked := how.booked (run.extend (.start call :: between)).remembers.settings_eq request
  refine ⟨step.result, ?_, ?_⟩
  · rw [outcomes, account_answered run call silent, List.filterMap_append,
      outcome_begun run target, effects_eq]
    simp [Effect.outcome?, Effect.completion?]
  · rw [tableWrites, account_answered run call silent, List.filterMap_append,
      List.filter_append, tables_begun run target, effects_eq, List.nil_append,
      filterMap_write?_ended]
    exact booked.placed

/-- The log has an entry for each call that has failed, come too late or brought no rows. -/
theorem levels_log (run : Run) :
    run.log.map Diagnostic.level =
      run.completions.filterMap fun done => done.2.level? := by
  rw [log, gather, List.map_filterMap, List.map_filterMap]
  apply List.filterMap_congr
  intro done member
  rw [List.getElem?_eq_getElem (run.lt_of_mem_completions member), Option.bind_some]
  unfold Call.diagnostic?
  cases done.2.level? <;> rfl

/-- **Every call is accounted for.** A call has one outcome as soon as it has got a reply or names
no view, and none before; a click or a refresh has the outcome of its inner call. The outcome says
what the call has written to the tables. A step that finishes no call writes no more than the stamp
of a refresh that begins, and a step that finishes one changes the selection, the subheading and the
log as the outcome says. Of the log the last 64 entries are kept. -/
theorem calls_accounted_for (run : Run) :
    (∀ call later, call.container? = none ∨ ¬ Unanswered run.calls.length later →
      ∃ outcome,
        (run.extend (.start call :: later)).outcomes run.calls.length = [outcome] ∧
        outcome.Placed call
          ((run.extend (.start call :: later)).tableWrites run.calls.length)) ∧
    (∀ call c later, call.container? = some c → Unanswered run.calls.length later →
      (run.extend (.start call :: later)).outcomes run.calls.length = [] ∧
        (run.extend (.start call :: later)).tableWrites run.calls.length = []) ∧
    run.inner.completions = run.completions ∧
    (∀ e, (run.session.moment e).completions = [] →
      (run.extend [e]).session.dashboard.selection = run.session.dashboard.selection ∧
        (run.extend [e]).session.dashboard.diagnostics = run.session.dashboard.diagnostics ∧
        (run.session.moment e).writes = e.call?.toList.flatMap (Call.stamps run.settings)) ∧
    (∀ e ticket outcome, (ticket, outcome) ∈ (run.session.moment e).completions →
      ∃ call, (run.extend [e]).calls[ticket]? = some call ∧
        Booked run.settings run.session.dashboard (run.extend [e]).session.dashboard
          (run.session.moment e).writes call outcome) ∧
    run.session.dashboard.diagnostics = run.log.drop (run.log.length - 64) ∧
    run.log.map Diagnostic.level = run.completions.filterMap fun done => done.2.level? := by
  refine ⟨?_, ?_, run.inner_completions, ?_, ?_, run.diagnostics_eq, run.levels_log⟩
  · intro call later ended
    cases target : call.container? with
    | none =>
      obtain ⟨failure, selection, account_eq⟩ := run.account_unknown target later
      unfold outcomes tableWrites
      rw [account_eq]
      exact ⟨.failed failure, rfl, rfl⟩
    | some c =>
      rw [target] at ended
      exact run.finished target (ended.resolve_left (by simp))
  · intro call c later target unanswered
    exact run.unfinished target unanswered
  · intro e unfinished
    rcases run.step_booked e with ⟨-, selection_eq, diagnostics_eq, writes_eq⟩ | ⟨ticket, call,
      outcome, -, finished, -⟩
    · exact ⟨selection_eq, diagnostics_eq, writes_eq⟩
    · rw [unfinished] at finished
      cases finished
  · intro e ticket outcome member
    rcases run.step_booked e with ⟨unfinished, -⟩ | ⟨own, call, only, -, finished, found, -, booked⟩
    · rw [unfinished] at member
      cases member
    · rw [finished, List.mem_singleton] at member
      obtain ⟨rfl, rfl⟩ := Prod.mk.inj member
      exact ⟨call, found, booked⟩

end SpanDashboard.Run
