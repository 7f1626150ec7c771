import SpanDashboard.Proofs.Account

/-!
# Supersession

A reply is dropped exactly if a call that asks for a new table in the same container has begun since
the call of the reply began: this is what `is_current` tests. The count that a request carries is
the number of such calls up to its own, so it is still current exactly if there have been none since
(`Remembers.le_of_current`). Calls for more rows are not counted and supersede nothing; of the calls
for a table the one that began last is always heard; and tables are replaced in the order in which
the calls for them began.
-/

set_option autoImplicit false

namespace SpanDashboard

/-- The table that a write puts into an element. -/
def Write.table? (id : String) : Write → Option Table
  | .putTable other table => if other = id then some table else none
  | .addRows _ _ | .putHtml _ _ => none

/-- The calls of the steps that replaced the table of a container, one ticket for each write. -/
def Run.replacers (run : Run) (c : Container) : List Nat :=
  run.journal.flatMap fun m => (m.writes.filterMap (Write.table? c.id)).map fun _ => m.ticket

theorem replacements_pos_iff {c : Container} {events : List Event} :
    0 < replacements c (events.filterMap Event.call?) ↔
      ∃ other, .start other ∈ events ∧ other.replaces c = true := by
  rw [replacements, List.countP_pos_iff]
  constructor
  · rintro ⟨other, member, replacing⟩
    obtain ⟨e, found, same⟩ := List.mem_filterMap.1 member
    cases e with
    | start call =>
      obtain rfl : call = other := Option.some.inj same
      exact ⟨call, found, replacing⟩
    | answer ticket reply => cases same
  · rintro ⟨other, member, replacing⟩
    exact ⟨other, List.mem_filterMap.2 ⟨.start other, member, rfl⟩, replacing⟩

/-- Whether no call for a table in a container begins in some events. -/
def Unreplaced (c : Container) (events : List Event) : Prop :=
  ∀ other, .start other ∈ events → other.replaces c = false

theorem unreplaced_iff {c : Container} {events : List Event} :
    Unreplaced c events ↔ replacements c (events.filterMap Event.call?) = 0 := by
  rw [← Nat.le_zero, ← Nat.not_lt, replacements_pos_iff]
  constructor
  · rintro alone ⟨other, member, replacing⟩
    rw [alone other member] at replacing
    cases replacing
  · intro none_begun other member
    rw [Bool.eq_false_iff]
    intro replacing
    exact none_begun ⟨other, member, replacing⟩

theorem unreplaced_append {c : Container} {first later : List Event} :
    Unreplaced c (first ++ later) ↔ Unreplaced c first ∧ Unreplaced c later := by
  rw [unreplaced_iff, unreplaced_iff, unreplaced_iff, List.filterMap_append, replacements_append]
  omega

theorem Container.id_injective {c other : Container} (same : c.id = other.id) : c = other := by
  cases c <;> cases other <;> first | rfl | exact absurd same (by decide)

namespace Session

/-- No call for a table is later than a request that is still current. -/
theorem Remembers.le_of_current {settings : Settings} {calls : List Call} {s : Session}
    (history : Remembers settings calls s) {ticket other : Nat} {r : Request} {call : Call}
    (waits : s.waiting.lookup ticket = some r)
    (current : s.dashboard.generation r.container = r.generation)
    (found : calls[other]? = some call) (replacing : call.replaces r.container = true) :
    other ≤ ticket := by
  obtain ⟨own, -, request⟩ := history.waiting_eq waits
  obtain ⟨-, -, counted⟩ := Call.request?_eq_some request
  by_contra later
  have beyond : call ∈ calls.drop (ticket + 1) := by
    rw [List.mem_iff_getElem?]
    refine ⟨other - (ticket + 1), ?_⟩
    rw [List.getElem?_drop, show ticket + 1 + (other - (ticket + 1)) = other by omega]
    exact found
  have some_later : 0 < replacements r.container (calls.drop (ticket + 1)) :=
    List.countP_pos_iff.2 ⟨call, beyond, replacing⟩
  have all := replacements_append r.container (calls.take (ticket + 1)) (calls.drop (ticket + 1))
  rw [List.take_append_drop, ← history.generation_eq, current, counted] at all
  omega

/-- What a step writes to the tables of a container: nothing, or the reply to a current request for
a table is shown there. -/
theorem Turn.tables {s next : Session} {e : Event} {effects : List Effect}
    (turn : Turn s e next effects) (c : Container) :
    (effects.filterMap Effect.write?).filterMap (Write.table? c.id) = [] ∨
      ∃ ticket reply r rows, e = .answer ticket reply ∧ s.waiting.lookup ticket = some r ∧
        r.container = c ∧ s.dashboard.generation c = r.generation ∧ r.purpose ≠ .append ∧
        reply.rows r.view = .ok rows ∧
        (effects.filterMap Effect.write?).filterMap (Write.table? c.id) =
          [Table.render r.view s.dashboard.settings.zone rows] := by
  cases turn with
  | @asked call r request =>
    left
    rcases call.stamps_cases s.dashboard.settings with nothing | ⟨html, stamp⟩
    · simp [nothing, Effect.write?, List.filterMap_cons]
    · simp [stamp, Write.table?, Effect.write?, List.filterMap_cons]
  | refused unknown => exact .inl rfl
  | ignored nobody => exact .inl rfl
  | @resumed ticket reply r step waits how =>
    rw [filterMap_write?_ended]
    by_cases here : r.container = c
    · subst here
      cases how with
      | stale old => exact .inl rfl
      | failed current unread => exact .inl rfl
      | @rendered rows current read purpose =>
        refine .inr ⟨ticket, reply, r, rows, rfl, waits, rfl, current, ?_, read, ?_⟩
        · simp [purpose]
        · simp [Write.table?]
      | @selected rows target current read purpose =>
        refine .inr ⟨ticket, reply, r, rows, rfl, waits, rfl, current, ?_, read, ?_⟩
        · simp [purpose]
        · cases target.subheading? s.dashboard.settings.sampleLimit <;>
            simp [Write.table?]
      | nothing current read purpose => exact .inl rfl
      | added current read purpose => exact .inl rfl
    · have elsewhere : r.container.id ≠ c.id := by
        intro same
        exact here (Container.id_injective same)
      left
      cases how with
      | stale old => rfl
      | failed current unread => rfl
      | rendered current read purpose => simp [Write.table?, elsewhere]
      | @selected rows target current read purpose =>
        cases target.subheading? s.dashboard.settings.sampleLimit <;>
          simp [Write.table?, elsewhere]
      | nothing current read purpose => rfl
      | added current read purpose => rfl

end Session

namespace Run

theorem generation_extend (run : Run) (later : List Event) (c : Container) :
    (run.extend later).session.dashboard.generation c =
      run.session.dashboard.generation c + replacements c (later.filterMap Event.call?) := by
  rw [(run.extend later).remembers.generation_eq, run.remembers.generation_eq, calls_extend,
    replacements_append]

/-- As long as no call for a table begins, the count of a container stays the same. -/
theorem generation_alone (run : Run) {c : Container} {later : List Event}
    (alone : Unreplaced c later) :
    (run.extend later).session.dashboard.generation c = run.session.dashboard.generation c := by
  rw [generation_extend, unreplaced_iff.1 alone, Nat.add_zero]

/-- The reply to a call is used or dropped, and dropped exactly if a call for a table in the same
container has begun in between. -/
theorem resumed_between (run : Run) {call : Call} {c : Container}
    (target : call.container? = some c)
    {between : List Event} (unanswered : Unanswered run.calls.length between) (reply : Reply) :
    ∃ outcome,
      ((run.extend (.start call :: between)).session.moment
        (.answer run.calls.length reply)).effects.filterMap Effect.outcome? = [outcome] ∧
      (outcome = .superseded ↔
        ∃ other, .start other ∈ between ∧ other.replaces c = true) := by
  obtain ⟨r, request, begun, -⟩ := run.begun target
  obtain ⟨about, -, counted⟩ := Call.request?_eq_some request
  obtain rfl : r.container = c := Option.some.inj (about.symm.trans target)
  have waits : (run.extend (.start call :: between)).session.waiting.lookup run.calls.length =
      some r := by
    rw [extend_cons, lookup_extend _ (by simp [Event.call?]) unanswered]
    exact begun
  obtain ⟨step, how, effects_eq⟩ := Session.moment_effects_of_some waits reply
  refine ⟨step.result, ?_, ?_⟩
  · rw [effects_eq]
    simp [Effect.outcome?, Effect.completion?]
  · rw [how.superseded_iff_generation, ← replacements_pos_iff, extend_cons, generation_extend,
      counted]
    omega

/-- A call that gets a reply is over once and for all. -/
theorem outcomes_answered (run : Run) {call : Call} {c : Container}
    (target : call.container? = some c) {between : List Event}
    (unanswered : Unanswered run.calls.length between) (reply : Reply) (rest : List Event) :
    ∃ outcome,
      (run.extend (.start call :: (between ++ .answer run.calls.length reply :: rest))).outcomes
        run.calls.length = [outcome] ∧
      (outcome = .superseded ↔
        ∃ other, .start other ∈ between ∧ other.replaces c = true) := by
  obtain ⟨outcome, single, dropped⟩ := run.resumed_between target unanswered reply
  refine ⟨outcome, ?_, dropped⟩
  rw [outcomes, account_answered run call unanswered, List.filterMap_append,
    outcome_begun run target, single, List.nil_append]

/-- Nothing but a call for a table in the same container supersedes a call. -/
theorem not_superseded (run : Run) {call : Call} {c : Container}
    (target : call.container? = some c) {later : List Event}
    (alone : Unreplaced c later) {outcome : Outcome}
    (ended : outcome ∈ (run.extend (.start call :: later)).outcomes run.calls.length) :
    outcome ≠ .superseded := by
  by_cases unanswered : Unanswered run.calls.length later
  · rw [outcomes, account_unanswered run call unanswered, outcome_begun run target] at ended
    cases ended
  · obtain ⟨between, reply, rest, rfl, silent⟩ := exists_first_reply unanswered
    obtain ⟨only, single, dropped⟩ := run.outcomes_answered target silent reply rest
    rw [single, List.mem_singleton] at ended
    subst ended
    intro superseded
    obtain ⟨other, member, replacing⟩ := dropped.1 superseded
    have none_such := alone other (List.mem_append_left _ member)
    rw [replacing] at none_such
    cases none_such

@[simp] theorem replacers_extend_one (run : Run) (e : Event) (c : Container) :
    (run.extend [e]).replacers c =
      run.replacers c ++
        ((run.session.moment e).writes.filterMap (Write.table? c.id)).map
          fun _ => (run.session.moment e).ticket := by
  simp [replacers]

/-- A request for a table that is waiting has been made by a call for a table. -/
theorem replaces_of_waiting (run : Run) {ticket : Nat} {r : Request}
    (waits : run.session.waiting.lookup ticket = some r) (replacing : r.purpose ≠ .append) :
    ∃ call, run.calls[ticket]? = some call ∧ call.replaces r.container = true := by
  obtain ⟨call, found, request⟩ := run.remembers.waiting_eq waits
  obtain ⟨about, purpose, -⟩ := Call.request?_eq_some request
  rw [purpose] at replacing
  exact ⟨call, found, by simp [Call.replaces, about, replacing]⟩

/-- As long as no call for a table begins, a current request for one has been on its way all the
time. -/
theorem waiting_alone (run : Run) {c : Container} {later : List Event}
    (alone : Unreplaced c later) {ticket : Nat} {r : Request}
    (waits : (run.extend later).session.waiting.lookup ticket = some r) (here : r.container = c)
    (replacing : r.purpose ≠ .append) :
    Unanswered ticket later ∧ run.session.waiting.lookup ticket = some r := by
  refine run.waiting_before ?_ waits
  obtain ⟨call, found, replaces⟩ := replaces_of_waiting _ waits replacing
  by_contra new
  rw [calls_extend, List.getElem?_append_right (by omega)] at found
  obtain ⟨e, member, same⟩ := List.mem_filterMap.1 (List.mem_of_getElem? found)
  cases e with
  | answer other reply => cases same
  | start other =>
    obtain rfl : other = call := Option.some.inj same
    rw [here, alone other member] at replaces
    cases replaces

/-- Only one request may replace the table of a container. -/
theorem current_unique (run : Run) {ticket other : Nat} {r r' : Request}
    (waits : run.session.waiting.lookup ticket = some r) (replacing : r.purpose ≠ .append)
    (current : run.session.dashboard.generation r.container = r.generation)
    (waits' : run.session.waiting.lookup other = some r') (replacing' : r'.purpose ≠ .append)
    (current' : run.session.dashboard.generation r'.container = r'.generation)
    (same : r'.container = r.container) : other = ticket := by
  obtain ⟨call, found, replaces⟩ := run.replaces_of_waiting waits replacing
  obtain ⟨call', found', replaces'⟩ := run.replaces_of_waiting waits' replacing'
  rw [same] at replaces'
  rw [← same] at replaces
  have first := run.remembers.le_of_current waits current found' replaces'
  have second := run.remembers.le_of_current waits' current' found replaces
  omega

/-- What a step of a run writes to the tables of a container. -/
theorem tables_step (run : Run) (e : Event) (c : Container) :
    (run.session.moment e).writes.filterMap (Write.table? c.id) = [] ∨
    ∃ ticket reply r rows, e = .answer ticket reply ∧
      run.session.waiting.lookup ticket = some r ∧ r.container = c ∧
      run.session.dashboard.generation c = r.generation ∧ r.purpose ≠ .append ∧
      reply.rows r.view = .ok rows ∧
      (run.session.moment e).writes.filterMap (Write.table? c.id) =
        [Table.render r.view run.settings.zone rows] := by
  rw [← run.remembers.settings_eq]
  exact (run.session.step_turn e).tables c

/-- The calls that have replaced a table asked for it, and they are over. -/
theorem over_of_replacer (run : Run) {c : Container} {ticket : Nat}
    (replacer : ticket ∈ run.replacers c) :
    (∃ call, run.calls[ticket]? = some call ∧ call.replaces c = true) ∧
      run.session.waiting.lookup ticket = none := by
  induction run using Run.induction with
  | start settings => cases replacer
  | step run e ih =>
    rw [replacers_extend_one, List.mem_append] at replacer
    cases replacer with
    | inl earlier =>
      obtain ⟨⟨call, found, replacing⟩, ended⟩ := ih earlier
      have known := (List.getElem?_eq_some_iff.1 found).1
      exact ⟨⟨call, run.getElem?_calls_extend found [e], replacing⟩,
        run.lookup_extend_none known ended [e]⟩
    | inr now =>
      obtain ⟨table, written, rfl⟩ := List.mem_map.1 now
      rcases run.tables_step e c with none_written | ⟨answered, reply, r, rows, rfl, waits, here, -,
        replacing, -, -⟩
      · rw [none_written] at written
        cases written
      · obtain ⟨call, found, replaces⟩ := run.replaces_of_waiting waits replacing
        rw [here] at replaces
        refine ⟨⟨call, run.getElem?_calls_extend found _, replaces⟩, ?_⟩
        rw [session_extend_one]
        exact (run.session.step_turn _).lookup_answered

/-- The tables of a container are replaced in the order in which the calls for them began. -/
theorem replacers_ordered (run : Run) (c : Container) : (run.replacers c).Pairwise (· < ·) := by
  induction run using Run.induction with
  | start settings => exact List.Pairwise.nil
  | step run e ih =>
    rw [replacers_extend_one]
    rcases run.tables_step e c with
      none_written | ⟨ticket, reply, r, rows, rfl, waits, rfl, current, -, -, written⟩
    · rw [none_written, List.map_nil, List.append_nil]
      exact ih
    · rw [written]
      refine List.pairwise_append.2 ⟨ih, List.pairwise_singleton _ _, ?_⟩
      intro earlier member last same
      obtain rfl : last = ticket := List.mem_singleton.1 same
      obtain ⟨⟨call, found, replacing⟩, ended⟩ := run.over_of_replacer member
      have bound := run.remembers.le_of_current waits current found replacing
      have different : earlier ≠ last := by
        rintro rfl
        rw [ended] at waits
        cases waits
      omega

/-- **Supersession is exact.** A call that makes a request is superseded exactly if a call for a
table in the same container begins between its beginning and its reply. So the call for a table that
began last is never superseded, calls for more rows supersede nothing, and the tables of a container
are replaced in the order in which the calls for them began. -/
theorem superseded_iff_replaced_between (run : Run) :
    (∀ call c between reply rest, call.container? = some c →
      Unanswered run.calls.length between →
      ∃ outcome,
        (run.extend (.start call :: (between ++ .answer run.calls.length reply :: rest))).outcomes
          run.calls.length = [outcome] ∧
        (outcome = .superseded ↔
          ∃ other, .start other ∈ between ∧ other.replaces c = true)) ∧
    (∀ call c later outcome, call.replaces c = true →
      Unreplaced c later →
      outcome ∈ (run.extend (.start call :: later)).outcomes run.calls.length →
      outcome ≠ .superseded) ∧
    (∀ call c later outcome, call.container? = some c →
      (∀ other, .start other ∈ later → other.container? = some c →
        ∃ view key, other = .append view key) →
      outcome ∈ (run.extend (.start call :: later)).outcomes run.calls.length →
      outcome ≠ .superseded) ∧
    ∀ c, (run.replacers c).Pairwise (· < ·) := by
  refine ⟨?_, ?_, ?_, run.replacers_ordered⟩
  · intro call c between reply rest target unanswered
    exact run.outcomes_answered target unanswered reply rest
  · intro call c later outcome replacing last ended
    have target : call.container? = some c := by
      simp only [Call.replaces, Bool.and_eq_true, decide_eq_true_eq] at replacing
      exact replacing.2
    exact run.not_superseded target last ended
  · intro call c later outcome target appends ended
    apply run.not_superseded target _ ended
    intro other member
    by_cases here : other.container? = some c
    · obtain ⟨view, key, rfl⟩ := appends other member here
      simp [Call.replaces, Call.purpose]
    · simp [Call.replaces, here]

end Run

end SpanDashboard
