import SpanDashboard.Proofs.Overwriting
import SpanDashboard.Proofs.Replies

/-!
# Loading in parts

A list of records may come with one reply or with many: `render_view` brings the first part, and
`append_view` brings the others, one after the other. In the end the same table is shown
(`loads_in_parts`). Other calls may be on their way when the loading begins, and calls for other
containers may come in between; what carries the proof is that no reply but the one that is waited
for can change the container, since no other request for it is current.
-/

set_option autoImplicit false

namespace SpanDashboard

/-! ## Undisturbed containers -/

/-- Whether no call for a container begins in some events. -/
def Unvisited (c : Container) (events : List Event) : Prop :=
  ∀ call, .start call ∈ events → call.container? ≠ some c

theorem Unvisited.unreplaced {c : Container} {events : List Event}
    (unvisited : Unvisited c events) : Unreplaced c events := by
  intro call member
  simp [Call.replaces, unvisited call member]

/-- The number of records that a call has brought. -/
def Outcome.rows : Outcome → Nat
  | .rendered n | .appended n => n
  | .superseded | .failed _ => 0

namespace Run

/-- Whether a reply to a call would change a container. -/
def Current (run : Run) (c : Container) (ticket : Nat) : Prop :=
  ∃ r, run.session.waiting.lookup ticket = some r ∧ r.container = c ∧
    run.session.dashboard.generation c = r.generation

theorem Current.lt {run : Run} {c : Container} {ticket : Nat} (current : run.Current c ticket) :
    ticket < run.calls.length := by
  obtain ⟨r, waits, -⟩ := current
  exact run.lt_of_waiting waits

/-- A request that is current has been so since its call began. -/
theorem Current.before {run : Run} {c : Container} {ticket : Nat} {later : List Event}
    (current : (run.extend later).Current c ticket) (known : ticket < run.calls.length) :
    Unanswered ticket later ∧ Unreplaced c later ∧ run.Current c ticket := by
  obtain ⟨r, waits, rfl, same⟩ := current
  obtain ⟨unanswered, waited⟩ := run.waiting_before known waits
  have reached := run.generation_le_of_waiting waited
  rw [generation_extend] at same
  exact ⟨unanswered, unreplaced_iff.2 (by omega), r, waited, rfl, by omega⟩

/-- Without a call for the container no request for it becomes current. -/
theorem Current.known {run : Run} {c : Container} {ticket : Nat} {later : List Event}
    (current : (run.extend later).Current c ticket) (unvisited : Unvisited c later) :
    ticket < run.calls.length := by
  obtain ⟨r, waits, here, -⟩ := current
  obtain ⟨call, found, request⟩ := (run.extend later).remembers.waiting_eq waits
  obtain ⟨target, -⟩ := Call.request?_eq_some request
  by_contra new
  rw [calls_extend, List.getElem?_append_right (by omega)] at found
  obtain ⟨e, member, same⟩ := List.mem_filterMap.1 (List.mem_of_getElem? found)
  cases e with
  | answer other reply => cases same
  | start other =>
    obtain rfl : other = call := Option.some.inj same
    exact unvisited other member (target.trans (congrArg some here))

/-- The contents of a container stay as they are as long as no call for it begins and no current
request for it gets its reply. -/
theorem contents_unvisited (run : Run) {c : Container} {later : List Event}
    (unvisited : Unvisited c later)
    (unanswered : ∀ ticket, run.Current c ticket → Unanswered ticket later) :
    (run.extend later).contents c = run.contents c := by
  induction later generalizing run with
  | nil => rw [extend_nil]
  | cons e rest ih =>
    have first : Unvisited c [e] := fun call member =>
      unvisited call (List.mem_singleton.1 member ▸ List.mem_cons_self)
    have others : Unvisited c rest := fun call member =>
      unvisited call (List.mem_cons_of_mem e member)
    have kept : (run.extend [e]).contents c = run.contents c := by
      rcases run.contents_step e c with same | ⟨ticket, reply, r, rows, rfl, waits, here, current,
        -⟩
      · exact same
      · have silent := unanswered ticket ⟨r, waits, here, current⟩ _ List.mem_cons_self
        simp [Event.reply?] at silent
    rw [extend_cons, ih (run.extend [e]) others, kept]
    intro ticket current
    obtain ⟨-, -, before⟩ := current.before (current.known first)
    exact (List.forall_mem_cons.1 (unanswered ticket before)).2

/-- Whether no reply can change a container. -/
def Settled (run : Run) (c : Container) : Prop :=
  ∀ ticket, ¬ run.Current c ticket

theorem Settled.extend {run : Run} {c : Container} (settled : run.Settled c) {later : List Event}
    (unvisited : Unvisited c later) : (run.extend later).Settled c := by
  intro ticket current
  exact settled ticket (current.before (current.known unvisited)).2.2

/-- After a call for the table, only its own reply can change the container; after a call for more
rows too, if no other reply could before. -/
theorem eq_of_current_begun (run : Run) {call : Call} {c : Container}
    (sole : call.replaces c = true ∨ run.Settled c) {ticket : Nat}
    (current : (run.extend [.start call]).Current c ticket) : ticket = run.calls.length := by
  have bound := current.lt
  by_contra different
  rw [calls_extend, List.length_append] at bound
  obtain ⟨-, unreplaced, before⟩ := current.before (by simp [Event.call?] at bound; omega)
  rcases sole with replacing | settled
  · have alone := unreplaced call List.mem_cons_self
    rw [replacing] at alone
    cases alone
  · exact settled ticket before

/-- Until the reply to the only request that is current, the contents stay as they are. -/
theorem contents_begun (run : Run) {call : Call} {c : Container}
    (sole : call.replaces c = true ∨ run.Settled c) {between : List Event}
    (unvisited : Unvisited c between) (unanswered : Unanswered run.calls.length between) :
    ((run.extend [.start call]).extend between).contents c = run.contents c := by
  rw [contents_unvisited _ unvisited, contents_extend_one]
  · rfl
  · intro ticket current
    rw [run.eq_of_current_begun sole current]
    exact unanswered

/-- After the reply to the only request that is current, no reply can change the container. -/
theorem settled_answered (run : Run) {call : Call} {c : Container}
    (sole : call.replaces c = true ∨ run.Settled c) {between : List Event}
    (unvisited : Unvisited c between) (reply : Reply) :
    (((run.extend [.start call]).extend between).extend
      [.answer run.calls.length reply]).Settled c := by
  intro ticket current
  have no_call : Unvisited c [.answer run.calls.length reply] := fun call member => by
    simp at member
  have known := current.known no_call
  obtain ⟨silent, -, before⟩ := current.before known
  obtain ⟨-, -, begun⟩ := before.before (before.known unvisited)
  obtain rfl := run.eq_of_current_begun sole begun
  have replied := silent _ List.mem_cons_self
  simp [Event.reply?] at replied

end Run

/-! ## One reply after the other -/

/-- A call and its reply, with what else happens before and after the reply. -/
structure Exchange where
  call : Call
  between : List Event
  reply : Reply
  after : List Event

namespace Run

/-- The run after a call, its reply and what comes with them. -/
def exchange (run : Run) (x : Exchange) : Run :=
  run.withReply x.call x.between x.reply x.after

/-- The run after the beginning of the call, what comes next, the reply, and the rest. -/
theorem exchange_eq (run : Run) (x : Exchange) :
    run.exchange x = (((run.extend [.start x.call]).extend x.between).extend
      [.answer run.calls.length x.reply]).extend x.after := by
  simp [exchange, withReply, extend]

/-- The run after some calls, each of which begins after the reply to the one before. -/
def exchanges (run : Run) (xs : List Exchange) : Run :=
  xs.foldl exchange run

/-- The tickets of these calls. -/
def tickets (run : Run) : List Exchange → List Nat
  | [] => []
  | x :: rest => run.calls.length :: (run.exchange x).tickets rest

/-- Whether the replies are the first ones to the calls, and no other call for the container comes
in between. -/
def Undisturbed (run : Run) (c : Container) : List Exchange → Prop
  | [] => True
  | x :: rest =>
    Unanswered run.calls.length x.between ∧ Unvisited c (x.between ++ x.after) ∧
      (run.exchange x).Undisturbed c rest

/-- A call that gets its reply undisturbed places the records that the reply brings, and then the
container is settled. -/
theorem exchange_placed (run : Run) {x : Exchange} {view : View} {key : Option DetailKey}
    (target : x.call.target? = some (view, key))
    (sole : x.call.replaces view.container = true ∨ run.Settled view.container)
    (unanswered : Unanswered run.calls.length x.between)
    (unvisited : Unvisited view.container (x.between ++ x.after)) {rs : List Record}
    (brings : x.reply.Brings view rs) :
    (∃ r : Request, r.view = view ∧ r.purpose = x.call.purpose ∧
      (run.exchange x).contents view.container =
        r.place (rs.map Record.toRow) (run.contents view.container)) ∧
      (run.exchange x).Settled view.container := by
  obtain ⟨r, request, begun, -⟩ := run.begun (Call.container?_of_target target)
  obtain ⟨-, purpose, counted⟩ := Call.request?_eq_some request
  obtain rfl := Call.view_eq_of_target request target
  have quiet : Unvisited r.view.container x.between := fun call member =>
    unvisited call (List.mem_append_left _ member)
  have quiet_after : Unvisited r.view.container x.after := fun call member =>
    unvisited call (List.mem_append_right _ member)
  rw [exchange_eq]
  have waits : ((run.extend [.start x.call]).extend x.between).session.waiting.lookup
      run.calls.length = some r := by
    rw [lookup_extend _ (by simp [Event.call?]) unanswered]
    exact begun
  have current : ((run.extend [.start x.call]).extend x.between).session.dashboard.generation
      r.container = r.generation := by
    rw [counted]
    exact generation_alone _ quiet.unreplaced
  have settled := run.settled_answered sole quiet x.reply
  refine ⟨⟨r, rfl, purpose, ?_⟩, settled.extend quiet_after⟩
  rw [contents_unvisited _ quiet_after fun ticket current => absurd current (settled ticket),
    ← run.contents_begun sole quiet unanswered]
  exact contents_answer _ waits current (Reply.rows_of_brings brings)

/-- The call of an exchange is over at its end. -/
theorem lookup_exchange (run : Run) (x : Exchange) :
    (run.exchange x).session.waiting.lookup run.calls.length = none := by
  rw [exchange_eq]
  refine lookup_extend_none _ (by simp [Event.call?]) ?_ x.after
  rw [session_extend_one]
  exact (Session.step_turn _ _).lookup_answered

theorem exists_exchanges_eq (run : Run) (xs : List Exchange) :
    ∃ later, run.exchanges xs = run.extend later := by
  induction xs generalizing run with
  | nil => exact ⟨[], run.extend_nil.symm⟩
  | cons x rest ih =>
    obtain ⟨later, same⟩ := ih (run.exchange x)
    exact ⟨_, same.trans (extend_extend _ _ _)⟩

/-- The outcome of a call is not changed by the calls after it. -/
theorem outcomes_exchanges (run : Run) (x : Exchange) (xs : List Exchange) :
    (run.exchanges (x :: xs)).outcomes run.calls.length =
      (run.exchange x).outcomes run.calls.length := by
  obtain ⟨later, same⟩ := exists_exchanges_eq (run.exchange x) xs
  have known : run.calls.length < (run.exchange x).calls.length := by
    simp [exchange, withReply, Event.call?]
  rw [exchanges, List.foldl_cons, ← exchanges, same, outcomes, outcomes,
    account_extend_none _ known (run.lookup_exchange x)]

/-- The outcome of a call that gets its reply undisturbed tells how many records the reply
brings. -/
theorem exchange_outcome (run : Run) {x : Exchange} {view : View} {key : Option DetailKey}
    (target : x.call.target? = some (view, key))
    (unanswered : Unanswered run.calls.length x.between)
    (unvisited : Unvisited view.container (x.between ++ x.after)) {rs : List Record}
    (brings : x.reply.Brings view rs) :
    (x.call.purpose ≠ .append →
      (run.exchange x).outcomes run.calls.length = [.rendered rs.length]) ∧
    (x.call.purpose = .append →
      (run.exchange x).outcomes run.calls.length = [.appended rs.length]) := by
  have alone : Unreplaced view.container x.between :=
    (unreplaced_append.1 unvisited.unreplaced).1
  obtain ⟨d, r, step, how, used, rfl, purpose, -, outcome, -⟩ :=
    run.used_with_reply target unanswered alone x.reply x.after
  rw [exchange, outcome, ← purpose]
  constructor
  · intro replacing
    rw [(how.of_brings used brings replacing).1]
  · intro adding
    rw [(how.of_brings_append used brings adding).1]

/-- What calls for more rows add to a table, one after the other. -/
theorem exchanges_added (run : Run) {view : View} (settled : run.Settled view.container)
    {more : List Exchange} (adding : ∀ x ∈ more, ∃ key, x.call = .append view key)
    (undisturbed : run.Undisturbed view.container more) {chunks : List (List Record)}
    (brings : List.Forall₂ (fun x rs => x.reply.Brings view rs) more chunks) {rs : List Record}
    (shown : run.contents view.container = some (.new view (rs.map Record.toRow))) :
    (run.exchanges more).contents view.container =
        some (.new view ((rs ++ chunks.flatten).map Record.toRow)) ∧
      (run.tickets more).map (run.exchanges more).outcomes =
        chunks.map fun chunk => [.appended chunk.length] := by
  induction brings generalizing run rs with
  | nil =>
    rw [List.flatten_nil, List.append_nil]
    exact ⟨shown, rfl⟩
  | @cons x chunk more chunks brought others ih =>
    obtain ⟨⟨key, is_append⟩, adding_others⟩ := List.forall_mem_cons.1 adding
    obtain ⟨unanswered, unvisited, undisturbed_others⟩ := undisturbed
    have target : x.call.target? = some (view, key) := by rw [is_append, Call.target?]
    have purpose : x.call.purpose = .append := by rw [is_append, Call.purpose]
    obtain ⟨⟨r, about, same_purpose, placed⟩, settled_next⟩ :=
      run.exchange_placed target (.inr settled) unanswered unvisited brought
    have added : (run.exchange x).contents view.container =
        some (.new view ((rs ++ chunk).map Record.toRow)) := by
      rw [placed, Request.place_of_append (same_purpose.trans purpose), shown, about]
      simp [Contents.add, Contents.new]
    obtain ⟨all, outcomes_others⟩ :=
      ih (run.exchange x) settled_next adding_others undisturbed_others added
    refine ⟨?_, ?_⟩
    · rw [exchanges, List.foldl_cons, ← exchanges, all, List.flatten_cons, List.append_assoc]
    · rw [tickets, List.map_cons, List.map_cons, outcomes_exchanges,
        (run.exchange_outcome target unanswered unvisited brought).2 purpose, ← outcomes_others]
      rfl

/-- What a call for the table and calls for more rows show in the end. -/
theorem exchanges_loaded (run : Run) {view : View} {key : Option DetailKey} {first : Exchange}
    {more : List Exchange} (target : first.call.target? = some (view, key))
    (replacing : first.call.purpose ≠ .append)
    (adding : ∀ x ∈ more, ∃ key, x.call = .append view key)
    (undisturbed : run.Undisturbed view.container (first :: more))
    {chunk : List Record} {chunks : List (List Record)}
    (brings : List.Forall₂ (fun x rs => x.reply.Brings view rs) (first :: more)
      (chunk :: chunks)) :
    (run.exchanges (first :: more)).shown view.container =
        some (Table.ofRecords view run.settings.zone (chunk :: chunks).flatten) ∧
      (run.tickets (first :: more)).map (run.exchanges (first :: more)).outcomes =
        [.rendered chunk.length] :: chunks.map fun chunk => [.appended chunk.length] := by
  obtain ⟨brought, brought_more⟩ := List.forall₂_cons.1 brings
  obtain ⟨unanswered, unvisited, undisturbed_more⟩ := undisturbed
  have replaces : first.call.replaces view.container = true := by
    simp [Call.replaces, Call.container?, target, replacing]
  obtain ⟨⟨r, about, purpose, placed⟩, settled⟩ :=
    run.exchange_placed target (.inl replaces) unanswered unvisited brought
  rw [Request.place_of_ne_append (purpose ▸ replacing), about] at placed
  obtain ⟨all, outcomes_more⟩ :=
    exchanges_added _ settled adding undisturbed_more brought_more placed
  have same_settings : (run.exchanges (first :: more)).settings = run.settings := by
    obtain ⟨later, same⟩ := run.exists_exchanges_eq (first :: more)
    rw [same, settings_extend]
  refine ⟨?_, ?_⟩
  · rw [shown_eq, same_settings, exchanges, List.foldl_cons, ← exchanges, all, Option.map_some,
      Contents.table_new, Table.render_toRow, List.flatten_cons]
  · rw [tickets, List.map_cons, outcomes_exchanges,
      (run.exchange_outcome target unanswered unvisited brought).1 replacing, ← outcomes_more]
    rfl

/-- The numbers of records that the calls tell are together as many as there are records. -/
theorem sum_rows (chunk : List Record) (chunks : List (List Record)) :
    (([.rendered chunk.length] :: chunks.map fun part => [.appended part.length]).flatten.map
      Outcome.rows).sum = (chunk :: chunks).flatten.length := by
  rw [List.length_flatten, List.flatten_cons, ← List.flatMap_def, ← List.map_eq_flatMap,
    List.map_append, List.map_map]
  rfl

/-- **Loading in parts shows the same table as loading at once.** Let a list of records be cut into
parts. If a call for the table gets the first part, and then one call for more rows after the other
gets the next part, with no other call for the container in between, then in the end the table is
the one that a single call gets with the whole list. Each call tells how many records it has
brought, and together they are as many as the list has. -/
theorem loads_in_parts (run other : Run) {view : View} {key key_whole : Option DetailKey}
    {first whole : Exchange} {more : List Exchange}
    (target : first.call.target? = some (view, key)) (replacing : first.call.purpose ≠ .append)
    (adding : ∀ x ∈ more, ∃ key, x.call = .append view key)
    (undisturbed : run.Undisturbed view.container (first :: more))
    {rs : List Record} {chunk : List Record} {chunks : List (List Record)}
    (cut : (chunk :: chunks).flatten = rs)
    (brings : List.Forall₂ (fun x part => x.reply.Brings view part) (first :: more)
      (chunk :: chunks))
    (same_zone : other.settings.zone = run.settings.zone)
    (target_whole : whole.call.target? = some (view, key_whole))
    (replacing_whole : whole.call.purpose ≠ .append)
    (undisturbed_whole : other.Undisturbed view.container [whole])
    (brings_whole : whole.reply.Brings view rs) :
    (run.exchanges (first :: more)).shown view.container =
        (other.exchange whole).shown view.container ∧
      (other.exchange whole).shown view.container =
        some (Table.ofRecords view run.settings.zone rs) ∧
      (run.tickets (first :: more)).map (run.exchanges (first :: more)).outcomes =
        [.rendered chunk.length] :: chunks.map (fun part => [.appended part.length]) ∧
      (other.exchange whole).outcomes other.calls.length = [.rendered rs.length] ∧
      (((run.tickets (first :: more)).flatMap (run.exchanges (first :: more)).outcomes).map
        Outcome.rows).sum = rs.length := by
  obtain ⟨shown, outcomes⟩ := run.exchanges_loaded target replacing adding undisturbed brings
  obtain ⟨shown_whole, outcomes_whole⟩ :=
    other.exchanges_loaded target_whole replacing_whole (List.forall_mem_nil _) undisturbed_whole
      (List.forall₂_cons.2 ⟨brings_whole, .nil⟩)
  subst cut
  have table : (other.exchange whole).shown view.container =
      some (Table.ofRecords view run.settings.zone (chunk :: chunks).flatten) := by
    rw [List.flatten_singleton, same_zone] at shown_whole
    exact shown_whole
  refine ⟨shown.trans table.symm, table, outcomes, (List.cons.inj outcomes_whole).1, ?_⟩
  rw [List.flatMap_def, outcomes]
  exact sum_rows chunk chunks

/-- A record, no record and another record come to the same as two records, although the first call
finds an older one for the container on its way, whose reply comes late, and the overview is asked
for in between. -/
theorem loads_in_parts_of_three :
    let old : Run := ⟨{}, [.start (.render .running (some ⟨"b", none⟩))]⟩
    let key : Option DetailKey := some ⟨"a", none⟩
    let first : Exchange :=
      ⟨.activate .errorCount "a", [.start (.refresh 5)], .ok "[\x7b\x7d]", [.answer 0 (.ok "[]")]⟩
    let more : List Exchange :=
      [⟨.append .error key, [], .ok "[]", []⟩, ⟨.append .error key, [], .ok "[\x7b\x7d]", []⟩]
    let whole : Exchange := ⟨.render .error key, [], .ok "[\x7b\x7d, \x7b\x7d]", []⟩
    (old.exchanges (first :: more)).shown .detail = (exchange ⟨{}, []⟩ whole).shown .detail ∧
      (old.tickets (first :: more)).map (old.exchanges (first :: more)).outcomes =
        [[.rendered 1], [.appended 0], [.appended 1]] := by
  intro old key first more whole
  have brings_one : Reply.Brings .error (.ok "[\x7b\x7d]") [.detail .blank] :=
    ⟨_, [.object []], rfl, rfl, .cons rfl .nil⟩
  have brings_none : Reply.Brings .error (.ok "[]") [] := ⟨_, [], rfl, rfl, .nil⟩
  have brings_two : Reply.Brings .error (.ok "[\x7b\x7d, \x7b\x7d]")
      [.detail .blank, .detail .blank] :=
    ⟨_, [.object [], .object []], rfl, rfl, .cons rfl (.cons rfl .nil)⟩
  have unvisited : Unvisited .detail (first.between ++ first.after) := by
    intro call member
    obtain rfl : call = .refresh 5 := by simpa [first] using member
    decide
  have unanswered : Unanswered old.calls.length first.between :=
    List.forall_mem_singleton.2 rfl
  have nobody : Unvisited .detail [] := nofun
  have undisturbed : old.Undisturbed .detail (first :: more) :=
    ⟨unanswered, unvisited, nofun, nobody, nofun, nobody, trivial⟩
  have adding : ∀ x ∈ more, ∃ key, x.call = .append .error key :=
    List.forall_mem_cons.2 ⟨⟨_, rfl⟩, List.forall_mem_singleton.2 ⟨_, rfl⟩⟩
  have undisturbed_whole : Run.Undisturbed ⟨{}, []⟩ .detail [whole] := ⟨nofun, nobody, trivial⟩
  have brings : List.Forall₂ (fun x part => x.reply.Brings .error part) (first :: more)
      [[.detail .blank], [], [.detail .blank]] :=
    .cons brings_one (.cons brings_none (.cons brings_one .nil))
  have first_replaces : first.call.purpose ≠ .append := nofun
  have whole_replaces : whole.call.purpose ≠ .append := nofun
  obtain ⟨same, -, outcomes, -⟩ := loads_in_parts old ⟨{}, []⟩ rfl first_replaces adding
    undisturbed rfl brings rfl rfl whole_replaces undisturbed_whole brings_two
  exact ⟨same, outcomes⟩

end Run

end SpanDashboard
