import SpanDashboard.Proofs.Contents

/-!
# Added rows that are overwritten

A call for rows takes no count of its own, it only reads `current_generation`. So a call for a table
that was on its way when the rows were asked for is not superseded by them: its reply may come after
theirs and replace the table they were added to. `mem_replacersDuring_iff` says when a call that has
begun replaces the table in the events that follow. From it, rows are lost to an earlier call
exactly if the last call for a table before them still waits when they are added, and gets rows
before another call for a table begins (`rows_overwritten_iff_late`); it is the only earlier call
that can do so.
-/

set_option autoImplicit false

namespace SpanDashboard

theorem unanswered_append {ticket : Nat} {first later : List Event} :
    Unanswered ticket (first ++ later) ↔ Unanswered ticket first ∧ Unanswered ticket later :=
  List.forall_mem_append

/-- A reply with rows to a current request for a table is shown. -/
theorem Dashboard.Resumed.table_of_read {d : Dashboard} {r : Request} {reply : Reply}
    {step : Dashboard.Step Outcome} (how : d.Resumed r reply step)
    (current : d.generation r.container = r.generation) {rows : List Row}
    (read : reply.rows r.view = .ok rows) (replacing : r.purpose ≠ .append) :
    step.writes.filterMap (Write.table? r.container.id) =
      [Table.render r.view d.settings.zone rows] := by
  cases how with
  | stale old => exact absurd current old
  | failed _ unread =>
    rw [unread] at read
    cases read
  | rendered _ shown _ =>
    obtain rfl := Except.ok.inj (shown.symm.trans read)
    simp [Write.table?]
  | @selected _ target _ shown _ =>
    obtain rfl := Except.ok.inj (shown.symm.trans read)
    cases target.subheading? d.settings.sampleLimit <;> simp [Write.table?]
  | nothing _ _ purpose => exact absurd purpose replacing
  | added _ _ purpose => exact absurd purpose replacing

namespace Run

/-- The calls that replace the table of a container in the events that follow a run, one ticket for
each write. -/
def replacersDuring (run : Run) (c : Container) (later : List Event) : List Nat :=
  (run.session.journal later).flatMap fun m =>
    (m.writes.filterMap (Write.table? c.id)).map fun _ => m.ticket

theorem replacers_extend (run : Run) (c : Container) (later : List Event) :
    (run.extend later).replacers c = run.replacers c ++ run.replacersDuring c later := by
  unfold replacers replacersDuring journal extend
  rw [Session.journal_append, List.flatMap_append]
  rfl

theorem replacersDuring_append (run : Run) (c : Container) (first later : List Event) :
    run.replacersDuring c (first ++ later) =
      run.replacersDuring c first ++ (run.extend first).replacersDuring c later := by
  unfold replacersDuring
  rw [Session.journal_append, List.flatMap_append, session_extend]

theorem replacersDuring_cons (run : Run) (c : Container) (e : Event) (later : List Event) :
    run.replacersDuring c (e :: later) =
      (((run.session.moment e).writes.filterMap (Write.table? c.id)).map
        fun _ => (run.session.moment e).ticket) ++ (run.extend [e]).replacersDuring c later := by
  unfold replacersDuring
  rw [session_extend_one]
  rfl

/-- Whatever happens in some events happens in one of them. -/
theorem exists_replacing_event (run : Run) {c : Container} {ticket : Nat} {later : List Event}
    (replacer : ticket ∈ run.replacersDuring c later) :
    ∃ first e last, later = first ++ e :: last ∧
      ticket ∈ (((run.extend first).session.moment e).writes.filterMap (Write.table? c.id)).map
        fun _ => ((run.extend first).session.moment e).ticket := by
  induction later generalizing run with
  | nil => cases replacer
  | cons e rest ih =>
    rw [replacersDuring_cons, List.mem_append] at replacer
    cases replacer with
    | inl now => exact ⟨[], e, rest, rfl, by rw [extend_nil]; exact now⟩
    | inr afterwards =>
      obtain ⟨first, e', last, rfl, replaces⟩ := ih (run.extend [e]) afterwards
      refine ⟨e :: first, e', last, rfl, ?_⟩
      rw [extend_cons]
      exact replaces

/-- A request that waits was made under a count that has been reached. -/
theorem generation_le_of_waiting (run : Run) {ticket : Nat} {r : Request}
    (waits : run.session.waiting.lookup ticket = some r) :
    r.generation ≤ run.session.dashboard.generation r.container := by
  obtain ⟨call, -, request⟩ := run.remembers.waiting_eq waits
  obtain ⟨-, -, counted⟩ := Call.request?_eq_some request
  rw [counted, run.remembers.generation_eq]
  exact (List.take_sublist _ _).countP_le

/-- A request for the table of a container that is current at the end of a run gets rows in the
events that follow, before another call for a table begins. -/
structure Renews (run : Run) (c : Container) (ticket : Nat) (r : Request) (later : List Event) :
    Prop where
  waits : run.session.waiting.lookup ticket = some r
  here : r.container = c
  replacing : r.purpose ≠ .append
  current : run.session.dashboard.generation c = r.generation
  answered : ∃ first reply rows last, later = first ++ .answer ticket reply :: last ∧
    Unanswered ticket first ∧ Unreplaced c first ∧ reply.rows r.view = .ok rows

/-- A call that has begun replaces the table in the events that follow exactly if its request is
current and gets rows in time. -/
theorem mem_replacersDuring_iff (run : Run) {c : Container} {ticket : Nat}
    (known : ticket < run.calls.length) {later : List Event} :
    ticket ∈ run.replacersDuring c later ↔ ∃ r, run.Renews c ticket r later := by
  constructor
  · intro replacer
    obtain ⟨first, e, last, rfl, replaces⟩ := run.exists_replacing_event replacer
    rcases (run.extend first).tables_step e c with none_written | ⟨answered, reply, r, rows, rfl,
      waits, rfl, current, replacing, read, -⟩
    · rw [none_written] at replaces
      cases replaces
    · obtain ⟨table, -, own⟩ := List.mem_map.1 replaces
      obtain rfl : answered = ticket := own
      obtain ⟨unanswered, waited⟩ := run.waiting_before known waits
      have reached := run.generation_le_of_waiting waited
      rw [generation_extend] at current
      have alone : Unreplaced r.container first := unreplaced_iff.2 (by omega)
      exact ⟨r, waited, rfl, replacing, by omega, first, reply, rows, last, rfl, unanswered, alone,
        read⟩
  · rintro ⟨r, waits, rfl, replacing, current, first, reply, rows, last, rfl, unanswered, alone,
      read⟩
    have still : (run.extend first).session.waiting.lookup ticket = some r := by
      rw [run.lookup_extend known unanswered]
      exact waits
    rw [← run.generation_alone alone] at current
    rw [replacersDuring_append, replacersDuring_cons]
    apply List.mem_append_right
    apply List.mem_append_left
    obtain ⟨step, how, effects_eq⟩ := Session.moment_effects_of_some still reply
    rw [Moment.writes, effects_eq, filterMap_write?_ended, how.table_of_read current read replacing]
    exact List.mem_singleton_self _

/-- The last call for the table of a container in a run, if it has got no reply, with the view that
it is for. -/
def Underway (run : Run) (c : Container) (ticket : Nat) (source : View) : Prop :=
  ∃ (before : Run) (call : Call) (key : Option DetailKey) (since : List Event),
    run = before.extend (.start call :: since) ∧ before.calls.length = ticket ∧
      call.target? = some (source, key) ∧ call.replaces c = true ∧ Unanswered ticket since ∧
      Unreplaced c since

theorem Underway.lt {run : Run} {c : Container} {ticket : Nat} {source : View}
    (underway : run.Underway c ticket source) : ticket < run.calls.length := by
  obtain ⟨before, call, key, since, rfl, rfl, -⟩ := underway
  simp [Event.call?]

/-- The request of the call that is underway goes on waiting, and stays current, as long as no call
for a table begins. -/
theorem Underway.waits {run : Run} {c : Container} {ticket : Nat} {source : View}
    (underway : run.Underway c ticket source) {later : List Event}
    (unanswered : Unanswered ticket later) (alone : Unreplaced c later) :
    ∃ r, (run.extend later).session.waiting.lookup ticket = some r ∧ r.container = c ∧
      r.purpose ≠ .append ∧ r.view = source ∧
      (run.extend later).session.dashboard.generation c = r.generation := by
  have known := underway.lt
  obtain ⟨before, call, key, since, rfl, rfl, about, replaces, silent, unreplaced⟩ := underway
  obtain ⟨replacing, target⟩ : call.purpose ≠ .append ∧ call.container? = some c := by
    simpa [Call.replaces] using replaces
  obtain ⟨r, request, waits, -⟩ := before.begun target
  obtain ⟨place, purpose, counted⟩ := Call.request?_eq_some request
  obtain rfl : r.container = c := Option.some.inj (place.symm.trans target)
  refine ⟨r, ?_, rfl, purpose ▸ replacing, ?_, ?_⟩
  · rw [lookup_extend _ known unanswered, extend_cons,
      lookup_extend _ (by simp [Event.call?]) silent]
    exact waits
  · exact Call.view_eq_of_target request about
  · rw [generation_alone _ alone, extend_cons, generation_alone _ unreplaced]
    exact counted.symm

/-- A request for a table that was waiting and is current later on is that of a call underway. -/
theorem underway_of_waiting (run : Run) {c : Container} {ticket : Nat} {r : Request}
    {later : List Event} (waits : run.session.waiting.lookup ticket = some r)
    (here : r.container = c) (replacing : r.purpose ≠ .append)
    (current : (run.extend later).session.dashboard.generation c = r.generation) :
    run.Underway c ticket r.view ∧ Unreplaced c later := by
  obtain ⟨before, call, since, rfl, rfl, silent, request⟩ := run.waiting_since waits
  obtain ⟨place, purpose, counted⟩ := Call.request?_eq_some request
  subst here
  rw [extend_cons, generation_extend, generation_extend, counted] at current
  obtain ⟨⟨view, key⟩, about, rfl⟩ := Option.map_eq_some_iff.1 request
  refine ⟨⟨before, call, key, since, rfl, rfl, about, ?_, silent, unreplaced_iff.2 (by omega)⟩,
    unreplaced_iff.2 (by omega)⟩
  rw [purpose] at replacing
  simp [Call.replaces, place, replacing]

/-- No call for a table begins while a call waits that is not superseded. -/
theorem unreplaced_of_outcome (run : Run) {call : Call} {c : Container}
    (target : call.container? = some c) {between : List Event}
    (unanswered : Unanswered run.calls.length between) {reply : Reply} {outcome : Outcome}
    (ended : outcome ∈ (run.extend (.start call ::
      (between ++ [.answer run.calls.length reply]))).outcomes run.calls.length)
    (heard : outcome ≠ .superseded) : Unreplaced c between := by
  obtain ⟨only, single, dropped⟩ := run.outcomes_answered target unanswered reply []
  rw [single, List.mem_singleton] at ended
  subst ended
  intro other member
  rw [Bool.eq_false_iff]
  intro replaces
  exact heard (dropped.2 ⟨other, member, replaces⟩)

/-- The run in which a call for rows has got its reply. -/
def adding (run : Run) (view : View) (key : Option DetailKey) (between : List Event)
    (reply : Reply) : Run :=
  run.extend (.start (.append view key) :: (between ++ [.answer run.calls.length reply]))

/-- A call that is underway when rows are asked for still waits when they are added, and gets rows
itself in the events that follow, before another call for a table begins. -/
def Late (run : Run) (c : Container) (between rest : List Event) (old : Nat) : Prop :=
  ∃ source first given rows last, run.Underway c old source ∧ Unanswered old between ∧
    rest = first ++ .answer old given :: last ∧ Unanswered old first ∧ Unreplaced c first ∧
    given.rows source = .ok rows

/-- An earlier call replaces the table to which rows have been added exactly if it is late. -/
theorem mem_replacersDuring_adding_iff (run : Run) {view : View} {key : Option DetailKey}
    {between : List Event} {reply : Reply} (alone : Unreplaced view.container between)
    {old : Nat} (earlier : old < run.calls.length) {rest : List Event} :
    old ∈ (run.adding view key between reply).replacersDuring view.container rest ↔
      run.Late view.container between rest old := by
  have known : old < (run.adding view key between reply).calls.length := by
    unfold adding
    rw [calls_extend, List.length_append]
    omega
  rw [mem_replacersDuring_iff _ known]
  constructor
  · rintro ⟨r, renews⟩
    obtain ⟨first, given, rows, last, rfl, unanswered, unreplaced, read⟩ := renews.answered
    obtain ⟨silent, waits⟩ := run.waiting_before earlier renews.waits
    obtain ⟨underway, -⟩ :=
      run.underway_of_waiting waits renews.here renews.replacing renews.current
    obtain ⟨-, silent⟩ := List.forall_mem_cons.1 silent
    obtain ⟨silent, -⟩ := unanswered_append.1 silent
    exact ⟨r.view, first, given, rows, last, underway, silent, rfl, unanswered, unreplaced, read⟩
  · rintro ⟨source, first, given, rows, last, underway, silent, rfl, unanswered, unreplaced, read⟩
    have unanswered_adding : Unanswered old
        (.start (.append view key) :: (between ++ [.answer run.calls.length reply])) := by
      refine List.forall_mem_cons.2 ⟨rfl, unanswered_append.2 ⟨silent, ?_⟩⟩
      intro e member
      rw [List.mem_singleton.1 member]
      exact if_neg (by omega)
    have alone_adding : Unreplaced view.container
        (.start (.append view key) :: (between ++ [.answer run.calls.length reply])) := by
      rw [unreplaced_iff] at alone ⊢
      simpa [Event.call?, replacements, Call.replaces, Call.purpose] using alone
    obtain ⟨r, waits, here, replacing, rfl, current⟩ :=
      underway.waits unanswered_adding alone_adding
    exact ⟨r, waits, here, replacing, current, first, given, rows, last, rfl, unanswered,
      unreplaced, read⟩

/-- **Added rows are lost to an earlier call exactly if it is late.** Let a call have added rows to
a container. A call that began before it replaces the table afterwards if and only if it was the
last call for a table before it, still waits when the rows are added, and gets rows before another
call for a table begins. At most one earlier call does so, and before all later ones. -/
theorem rows_overwritten_iff_late (run : Run) (view : View) (key : Option DetailKey)
    (between : List Event) (reply : Reply) (unanswered : Unanswered run.calls.length between)
    (count : Nat)
    (added : .appended (count + 1) ∈
      (run.adding view key between reply).outcomes run.calls.length) (rest : List Event) :
    (∀ old < run.calls.length,
      old ∈ (run.adding view key between reply).replacersDuring view.container rest ↔
        run.Late view.container between rest old) ∧
    (∀ old < run.calls.length, ∀ other < run.calls.length,
      old ∈ (run.adding view key between reply).replacersDuring view.container rest →
      other ∈ (run.adding view key between reply).replacersDuring view.container rest →
      old = other) ∧
    ((run.adding view key between reply).replacersDuring view.container rest).Pairwise (· < ·) := by
  have alone : Unreplaced view.container between :=
    run.unreplaced_of_outcome rfl unanswered added (by simp)
  refine ⟨?_, ?_, ?_⟩
  · intro old earlier
    exact run.mem_replacersDuring_adding_iff alone earlier
  · intro old earlier other earlier' replaces replaces'
    have known : run.calls.length < (run.adding view key between reply).calls.length := by
      simp [adding, Event.call?]
    obtain ⟨r, renews⟩ := (mem_replacersDuring_iff _ (by omega)).1 replaces
    obtain ⟨r', renews'⟩ := (mem_replacersDuring_iff _ (by omega)).1 replaces'
    have current := renews.current
    have current' := renews'.current
    rw [← renews.here] at current
    rw [← renews'.here] at current'
    exact current_unique _ renews'.waits renews'.replacing current' renews.waits renews.replacing
      current (renews.here.trans renews'.here.symm)
  · have ordered :=
      ((run.adding view key between reply).extend rest).replacers_ordered view.container
    rw [replacers_extend] at ordered
    exact (List.pairwise_append.1 ordered).2.1

/-- The error spans of a name are shown and asked for once more. -/
def reloaded : Run where
  settings := {}
  events := [
    .start (.render .error (some ⟨"a", none⟩)), .answer 0 (.ok "[\x7b\x7d]"),
    .start (.render .error (some ⟨"a", none⟩))]

/-- More of the spans are asked for and added; then the reply to the earlier call comes. -/
theorem reloaded_overwritten :
    reloaded.calls.length = 2 ∧
    (reloaded.adding .error (some ⟨"a", none⟩) [] (.ok "[\x7b\x7d]")).outcomes 2 =
      [.appended 1] ∧
    (reloaded.adding .error (some ⟨"a", none⟩) [] (.ok "[\x7b\x7d]")).contents .detail =
      some ⟨.error, [(.error, SpanDetail.blank.toRow), (.error, SpanDetail.blank.toRow)]⟩ ∧
    (reloaded.adding .error (some ⟨"a", none⟩) [] (.ok "[\x7b\x7d]")).replacersDuring .detail
      [.answer 1 (.ok "[]")] = [1] ∧
    ((reloaded.adding .error (some ⟨"a", none⟩) [] (.ok "[\x7b\x7d]")).extend
      [.answer 1 (.ok "[]")]).contents .detail = some ⟨.error, []⟩ :=
  ⟨rfl, rfl, rfl, rfl, rfl⟩

theorem reloaded_late :
    Unanswered reloaded.calls.length [] ∧
    .appended (0 + 1) ∈ (reloaded.adding .error (some ⟨"a", none⟩) []
      (.ok "[\x7b\x7d]")).outcomes reloaded.calls.length ∧
    reloaded.Late .detail [] [.answer 1 (.ok "[]")] 1 := by
  have silent : Unanswered reloaded.calls.length [] := by
    intro e member
    cases member
  have added : .appended (0 + 1) ∈ (reloaded.adding .error (some ⟨"a", none⟩) []
      (.ok "[\x7b\x7d]")).outcomes reloaded.calls.length := List.mem_singleton_self _
  have lost : 1 ∈ (reloaded.adding .error (some ⟨"a", none⟩) []
      (.ok "[\x7b\x7d]")).replacersDuring .detail [.answer 1 (.ok "[]")] :=
    List.mem_singleton_self _
  exact ⟨silent, added, ((rows_overwritten_iff_late reloaded .error (some ⟨"a", none⟩) []
    (.ok "[\x7b\x7d]") silent 0 added [.answer 1 (.ok "[]")]).1 1 (by decide)).1 lost⟩

end Run

end SpanDashboard
