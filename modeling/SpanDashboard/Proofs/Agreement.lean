import SpanDashboard.Proofs.Replies

/-!
# The selection agrees with the page

`on_cell_activated` changes the selection and the subheading only once the table is there. So the
subheading is that of the selection, in every state of every run. If the detail container is only
used by clicks, its table agrees as well: it shows the records of the reply that the click on the
selected cell has got. Selections follow each other in the order of the clicks that make them.
-/

set_option autoImplicit false

namespace SpanDashboard

/-- What a cell of the overview leads to: the spans of the name in its row that it counts, for a
latency cell those of its bucket. -/
inductive OverviewCell.LeadsTo (spanName : String) : OverviewCell → Selection → Prop where
  | errorCount : LeadsTo spanName .errorCount (.errorDetail spanName)
  | runningCount : LeadsTo spanName .runningCount (.runningDetail spanName)
  | latency (bucket : LatencyBucket) :
    LeadsTo spanName (.latency bucket) (.latencyDetail spanName bucket)

theorem OverviewCell.leadsTo_ofCell (cell : OverviewCell) (spanName : String) :
    cell.LeadsTo spanName (.ofCell cell spanName) := by
  cases cell with
  | errorCount => exact .errorCount
  | runningCount => exact .runningCount
  | latency bucket => exact .latency bucket

/-- No cell leads to the overview. -/
theorem OverviewCell.LeadsTo.ne_overview {cell : OverviewCell} {spanName : String}
    {target : Selection} (leads : cell.LeadsTo spanName target) : target ≠ .overview := by
  cases leads <;> exact Selection.noConfusion

/-- Only the overview has no subheading. -/
theorem Selection.exists_subheading {target : Selection} (chosen : target ≠ .overview)
    (sampleLimit : Nat) : ∃ html, target.subheading? sampleLimit = some html := by
  cases target with
  | overview => exact absurd rfl chosen
  | errorDetail spanName => exact ⟨_, rfl⟩
  | runningDetail spanName => exact ⟨_, rfl⟩
  | latencyDetail spanName bucket => exact ⟨_, rfl⟩

theorem Call.selection?_eq_some {call : Call} {outcome : Outcome} {target : Selection}
    (chosen : call.selection? outcome = some target) :
    ∃ cell rowKey rows, call = .activate cell rowKey ∧ outcome = .rendered rows ∧
      target = .ofCell cell rowKey := by
  cases call with
  | activate cell rowKey =>
    cases outcome with
    | rendered rows => exact ⟨cell, rowKey, rows, rfl, rfl, (Option.some.inj chosen).symm⟩
    | appended rows => cases chosen
    | superseded => cases chosen
    | failed failure => cases chosen
  | render view key => cases chosen
  | renderNamed name key => cases chosen
  | append view key => cases chosen
  | refresh now => cases chosen

namespace Write

theorem filterMap_table?_filter (id : String) (ws : List Write) :
    (ws.filter isTable).filterMap (table? id) = ws.filterMap (table? id) := by
  rw [List.filterMap_filter]
  congr 1
  funext w
  cases w <;> rfl

theorem filterMap_html?_filter (id : String) (ws : List Write) :
    (ws.filter fun w => !w.isTable).filterMap (html? id) = ws.filterMap (html? id) := by
  rw [List.filterMap_filter]
  congr 1
  funext w
  cases w <;> rfl

end Write

/-- A call whose table has been rendered has put it into its container, and no other call has put a
table anywhere. -/
theorem Outcome.Placed.tables {call : Call} {outcome : Outcome} {ws : List Write}
    (placed : outcome.Placed call (ws.filter Write.isTable)) (c : Container) :
    (∃ rows table, outcome = .rendered rows ∧ call.container? = some c ∧
      ws.filterMap (Write.table? c.id) = [table]) ∨
    (∀ rows, outcome = .rendered rows → call.container? ≠ some c) ∧
      ws.filterMap (Write.table? c.id) = [] := by
  rw [← Write.filterMap_table?_filter]
  cases outcome with
  | rendered rows =>
    obtain ⟨other, table, about, only⟩ := placed
    rw [only]
    by_cases here : other = c
    · subst here
      exact .inl ⟨rows, table, rfl, about, by simp [Write.table?]⟩
    · have elsewhere : other.id ≠ c.id := by
        intro same
        exact here (Container.id_injective same)
      refine .inr ⟨?_, by simp [Write.table?, elsewhere]⟩
      intro rows' _ about'
      exact here (Option.some.inj (about.symm.trans about'))
  | appended rows =>
    refine .inr ⟨by simp, ?_⟩
    cases rows with
    | zero =>
      rw [show ws.filter Write.isTable = [] from placed]
      rfl
    | succ rows =>
      obtain ⟨other, body, -, only⟩ := placed
      rw [only]
      rfl
  | superseded =>
    refine .inr ⟨by simp, ?_⟩
    rw [show ws.filter Write.isTable = [] from placed]
    rfl
  | failed failure =>
    refine .inr ⟨by simp, ?_⟩
    rw [show ws.filter Write.isTable = [] from placed]
    rfl

/-- Every selection comes with a table in the detail container. -/
theorem Booked.exists_table {settings : Settings} {d after : Dashboard} {ws : List Write}
    {call : Call} {outcome : Outcome} {target : Selection}
    (booked : Booked settings d after ws call outcome)
    (chosen : call.selection? outcome = some target) :
    ∃ table, ws.filterMap (Write.table? Container.detail.id) = [table] := by
  obtain ⟨cell, rowKey, rows, rfl, rfl, rfl⟩ := Call.selection?_eq_some chosen
  have about : (Call.activate cell rowKey).container? = some .detail :=
    Call.container?_of_purpose rfl
  rcases booked.placed.tables .detail with ⟨_, table, -, -, written⟩ | ⟨elsewhere, -⟩
  · exact ⟨table, written⟩
  · exact absurd about (elsewhere rows rfl)

/-- A stamp is neither a table nor a subheading. -/
theorem Call.stamps_elsewhere (settings : Settings) (call : Call) :
    (call.stamps settings).filterMap (Write.html? Container.detail.subheadingId) = [] := by
  rcases call.stamps_cases settings with nothing | ⟨html, stamp⟩
  · rw [nothing]
    rfl
  · have different : refreshStampId ≠ Container.detail.subheadingId := by decide
    rw [stamp]
    simp [Write.html?, different]

namespace Run

/-- The tables that have been put into a container, in this order. -/
def tables (run : Run) (c : Container) : List Table :=
  run.writes.filterMap (Write.table? c.id)

/-- The subheadings that have been put above the detail table, in this order. -/
def subheadings (run : Run) : List String :=
  run.writes.filterMap (Write.html? Container.detail.subheadingId)

/-- A call of the run has got a reply: the first one with its ticket after its beginning. -/
def Got (run : Run) (ticket : Nat) (call : Call) (reply : Reply) : Prop :=
  ∃ (before : Run) (between rest : List Event),
    run = before.extend (.start call :: (between ++ .answer ticket reply :: rest)) ∧
      before.calls.length = ticket ∧ Unanswered ticket between

/-- The selection and the table that come of a click once its request has got a reply: the selection
is the one that the clicked cell leads to, and the table is that of the records in the body of this
reply. -/
structure Opened (run : Run) (ticket : Nat) (target : Selection) (table : Table) : Prop where
  clicked : ∃ cell rowKey reply rs, cell.LeadsTo rowKey target ∧
    run.Got ticket (.activate cell rowKey) reply ∧ reply.Brings target.view rs ∧
    table = Table.ofRecords target.view run.settings.zone rs
  fetched : .fetch ticket (run.settings.url (target.view.path target.key?)) ∈ run.account ticket

/-- The subheadings are those of the selections. -/
theorem subheadings_eq (run : Run) :
    run.subheadings =
      (run.selections.map Prod.snd).filterMap fun target =>
        target.subheading? run.settings.sampleLimit := by
  induction run using Run.induction with
  | start settings => rfl
  | step run e ih =>
    rw [subheadings, writes_extend_one, List.filterMap_append, settings_extend]
    rcases run.step_booked e with ⟨unfinished, -, -, stamps⟩ | ⟨ticket, call, outcome, -, finished,
      found, -, booked⟩
    · rw [stamps, selections, run.gather_unfinished unfinished]
      have none_new : (e.call?.toList.flatMap (Call.stamps run.settings)).filterMap
          (Write.html? Container.detail.subheadingId) = [] := by
        cases e with
        | start call => simpa [Event.call?] using call.stamps_elsewhere run.settings
        | answer ticket reply => rfl
      rw [none_new, List.append_nil]
      exact ih
    · rw [← Write.filterMap_html?_filter _ (run.session.moment e).writes, booked.htmls_eq,
        selections, run.gather_finished finished found, List.map_append, List.filterMap_append]
      congr 1
      cases call.selection? outcome with
      | none => rfl
      | some target =>
        cases html : target.subheading? run.settings.sampleLimit <;>
          simp [Write.html?, html]

/-- Every selection is that of a clicked cell. -/
theorem clicked_of_mem_selections (run : Run) {ticket : Nat} {target : Selection}
    (member : (ticket, target) ∈ run.selections) :
    ∃ cell rowKey, run.calls[ticket]? = some (.activate cell rowKey) ∧
      cell.LeadsTo rowKey target := by
  obtain ⟨done, -, left⟩ := List.mem_filterMap.1 member
  obtain ⟨chosen, found, same⟩ := Option.map_eq_some_iff.1 left
  obtain ⟨rfl, rfl⟩ := Prod.mk.inj same
  obtain ⟨call, begun, selection⟩ := Option.bind_eq_some_iff.1 found
  obtain ⟨cell, rowKey, rows, rfl, -, rfl⟩ := Call.selection?_eq_some selection
  exact ⟨cell, rowKey, begun, cell.leadsTo_ofCell rowKey⟩

/-- The clicks that have made a selection are among the calls that replaced the detail table. -/
theorem selections_sublist (run : Run) :
    (run.selections.map Prod.fst).Sublist (run.replacers .detail) := by
  induction run using Run.induction with
  | start settings => exact List.Sublist.refl _
  | step run e ih =>
    rw [replacers_extend_one]
    rcases run.step_booked e with ⟨unfinished, -⟩ | ⟨ticket, call, outcome, own, finished, found, -,
      booked⟩
    · rw [selections, run.gather_unfinished unfinished]
      exact ih.trans (List.sublist_append_left _ _)
    · rw [selections, run.gather_finished finished found, List.map_append]
      apply ih.append
      cases chosen : call.selection? outcome with
      | none => exact List.nil_sublist _
      | some target =>
        obtain ⟨table, written⟩ := booked.exists_table chosen
        rw [written, own]
        exact List.Sublist.refl _

/-- Selections are made in the order of their clicks. -/
theorem selections_ordered (run : Run) : (run.selections.map Prod.fst).Pairwise (· < ·) :=
  (run.replacers_ordered .detail).sublist run.selections_sublist

/-- What has come of a click stays there. -/
theorem Opened.extend {run : Run} {ticket : Nat} {target : Selection} {table : Table}
    (opened : run.Opened ticket target table) (e : Event) :
    (run.extend [e]).Opened ticket target table := by
  obtain ⟨cell, rowKey, reply, rs, leads, got, brings, shown⟩ := opened.clicked
  obtain ⟨before, between, rest, rfl, begun, unanswered⟩ := got
  refine ⟨⟨cell, rowKey, reply, rs, leads, ⟨before, between, rest ++ [e], ?_, begun,
    unanswered⟩, brings, shown⟩, ?_⟩
  · rw [extend_extend]
    simp
  · rw [account_extend_one]
    exact List.mem_append_left _ opened.fetched

/-- A click that waits has asked for the records of its selection. -/
theorem fetched_of_waiting (run : Run) {ticket : Nat} {r : Request}
    (waits : run.session.waiting.lookup ticket = some r) :
    .fetch ticket r.url ∈ run.account ticket := by
  obtain ⟨before, call, between, rfl, rfl, unanswered, request⟩ := run.waiting_since waits
  obtain ⟨about, -, -⟩ := Call.request?_eq_some request
  obtain ⟨own, request', -, effects_eq⟩ := before.begun about
  obtain rfl : own = r := Option.some.inj (request'.symm.trans request)
  rw [account_unanswered before call unanswered, effects_eq]
  simp

/-- Whether the detail container is only used by clicks. -/
def ClicksOnly (run : Run) : Prop :=
  ∀ call ∈ run.calls, call.container? = some .detail →
    ∃ cell rowKey, call = .activate cell rowKey

theorem ClicksOnly.before {run : Run} {later : List Event}
    (clicks : (run.extend later).ClicksOnly) : run.ClicksOnly := by
  intro call member
  exact clicks call (by rw [calls_extend]; exact List.mem_append_left _ member)

/-- If the detail container is only used by clicks, a reply for it opens the selection of one. -/
theorem opened_of_reply (run : Run) (clicks : run.ClicksOnly) {ticket : Nat} {r : Request}
    {reply : Reply} {rows : List Row} (waits : run.session.waiting.lookup ticket = some r)
    (here : r.container = .detail) (read : reply.rows r.view = .ok rows) :
    ∃ cell rowKey, run.calls[ticket]? = some (.activate cell rowKey) ∧
      (run.extend [.answer ticket reply]).Opened ticket (.ofCell cell rowKey)
        (Table.render r.view run.settings.zone rows) := by
  have fetched := run.fetched_of_waiting waits
  obtain ⟨rs, brings, rfl⟩ := Reply.brings_of_rows read
  rw [Table.render_toRow]
  obtain ⟨before, call, between, rfl, rfl, unanswered, request⟩ := run.waiting_since waits
  obtain ⟨about, -, -⟩ := Call.request?_eq_some request
  rw [here] at about
  have begun :
      (before.extend (.start call :: between)).calls[before.calls.length]? = some call := by
    simp [Event.call?]
  obtain ⟨cell, rowKey, rfl⟩ := clicks call (List.mem_of_getElem? begun) about
  refine ⟨cell, rowKey, begun, ?_, ?_⟩
  · obtain rfl := Option.some.inj request
    refine ⟨cell, rowKey, reply, rs, cell.leadsTo_ofCell rowKey,
      ⟨before, between, [], ?_, rfl, unanswered⟩, brings, rfl⟩
    rw [extend_extend]
    rfl
  · obtain rfl := Option.some.inj request
    rw [account_extend_one]
    exact List.mem_append_left _ fetched

/-- If the detail container is only used by clicks, its table changes together with the
selection. -/
theorem detail_step (run : Run) (e : Event) (clicks : (run.extend [e]).ClicksOnly) :
    ((run.extend [e]).selections = run.selections ∧
      (run.extend [e]).tables .detail = run.tables .detail) ∨
    ∃ ticket target table,
      (run.extend [e]).selections = run.selections ++ [(ticket, target)] ∧
      (run.extend [e]).tables .detail = run.tables .detail ++ [table] ∧
      (run.extend [e]).Opened ticket target table := by
  rw [tables, writes_extend_one, List.filterMap_append]
  rcases run.tables_step e .detail with none_written | ⟨ticket, reply, r, rows, rfl, waits, here, -,
    -, read, written⟩
  · rw [none_written, List.append_nil]
    refine .inl ⟨?_, rfl⟩
    rcases run.step_booked e with ⟨unfinished, -⟩ | ⟨ticket, call, outcome, -, finished, found, -,
      booked⟩
    · exact run.gather_unfinished unfinished
    · rw [selections, run.gather_finished finished found]
      cases chosen : call.selection? outcome with
      | none => simp [selections]
      | some target =>
        obtain ⟨table, written⟩ := booked.exists_table chosen
        rw [none_written] at written
        cases written
  · obtain ⟨cell, rowKey, begun, opened⟩ := run.opened_of_reply clicks.before waits here read
    rw [written]
    refine .inr ⟨ticket, .ofCell cell rowKey, _, ?_, rfl, opened⟩
    rcases run.step_booked (.answer ticket reply) with ⟨-, -, -, stamps⟩ | ⟨own, call, outcome, rfl,
      finished, found, -, booked⟩
    · rw [stamps] at written
      cases written
    · have same : (run.extend [.answer ticket reply]).calls[ticket]? =
          some (.activate cell rowKey) := run.getElem?_calls_extend begun _
      obtain rfl := Option.some.inj (found.symm.trans same)
      rcases booked.placed.tables .detail with ⟨count, table, rfl, -, -⟩ | ⟨-, nothing⟩
      · exact run.gather_finished finished found
      · rw [nothing] at written
        cases written

/-- If the detail container is only used by clicks, it shows what has come of the click that made
the selection. -/
theorem detail_shown (run : Run) (clicks : run.ClicksOnly) :
    (run.selections = [] ∧ run.tables .detail = []) ∨
    ∃ ticket target table, run.selections.getLast? = some (ticket, target) ∧
      (run.tables .detail).getLast? = some table ∧ run.Opened ticket target table := by
  induction run using Run.induction with
  | start settings => exact .inl ⟨rfl, rfl⟩
  | step run e ih =>
    rcases run.detail_step e clicks with ⟨same_selections, same_tables⟩ | ⟨ticket, target, table,
      selections_eq, tables_eq, opened⟩
    · rw [same_selections, same_tables]
      rcases ih clicks.before with nothing | ⟨ticket, target, table, last, shown, opened⟩
      · exact .inl nothing
      · exact .inr ⟨ticket, target, table, last, shown, opened.extend e⟩
    · refine .inr ⟨ticket, target, table, ?_, ?_, opened⟩
      · rw [selections_eq, List.getLast?_concat]
      · rw [tables_eq, List.getLast?_concat]

/-- The selection is the overview as long as none has been made. -/
theorem selection_cases (run : Run) :
    (run.selections = [] ∧ run.session.dashboard.selection = .overview) ∨
    ∃ earlier ticket, run.selections = earlier ++ [(ticket, run.session.dashboard.selection)] ∧
      run.session.dashboard.selection ≠ .overview := by
  have last := run.selection_eq
  rcases List.eq_nil_or_concat run.selections with none_made | ⟨earlier, ⟨ticket, target⟩, made⟩
  · rw [none_made] at last
    exact .inl ⟨none_made, last⟩
  · rw [List.concat_eq_append] at made
    rw [made, List.map_append, List.map_singleton, List.getLast?_concat, Option.getD_some] at last
    have member : (ticket, target) ∈ run.selections := by simp [made]
    obtain ⟨cell, rowKey, -, leads⟩ := run.clicked_of_mem_selections member
    rw [last]
    exact .inr ⟨earlier, ticket, made, leads.ne_overview⟩

/-- **Selection, subheading and detail table agree.** The selection is the overview exactly if no
subheading has been written; otherwise the last one is its own. If the detail container is only used
by clicks, the selection is the overview exactly if no table has been put there; otherwise the last
one shows the records of the reply to the request of the click that made the selection. Selections
are made by clicks, each the one that the clicked cell leads to, in the order of these. -/
theorem selection_agrees (run : Run) :
    (run.session.dashboard.selection = .overview ↔ run.subheadings = []) ∧
    (run.session.dashboard.selection ≠ .overview →
      ∃ html, run.session.dashboard.selection.subheading? run.settings.sampleLimit = some html ∧
        run.subheadings.getLast? = some html) ∧
    (run.ClicksOnly →
      (run.session.dashboard.selection = .overview ↔ run.tables .detail = []) ∧
      (run.session.dashboard.selection ≠ .overview →
        ∃ ticket table, run.selections.getLast? = some (ticket, run.session.dashboard.selection) ∧
          (run.tables .detail).getLast? = some table ∧
          run.Opened ticket run.session.dashboard.selection table)) ∧
    run.session.dashboard.selection = (run.selections.map Prod.snd).getLast?.getD .overview ∧
    (∀ ticket target, (ticket, target) ∈ run.selections →
      ∃ cell rowKey, run.calls[ticket]? = some (.activate cell rowKey) ∧
        cell.LeadsTo rowKey target) ∧
    (run.selections.map Prod.fst).Pairwise (· < ·) := by
  refine ⟨?_, ?_, ?_, run.selection_eq, ?_, run.selections_ordered⟩
  · rcases run.selection_cases with ⟨none_made, overview⟩ | ⟨earlier, ticket, made, chosen⟩
    · rw [subheadings_eq, none_made]
      constructor
      · intro _
        rfl
      · intro _
        exact overview
    · obtain ⟨html, heading⟩ := Selection.exists_subheading chosen run.settings.sampleLimit
      rw [subheadings_eq, made]
      simp [chosen, heading]
  · intro chosen
    rcases run.selection_cases with ⟨-, overview⟩ | ⟨earlier, ticket, made, -⟩
    · exact absurd overview chosen
    · obtain ⟨html, heading⟩ := Selection.exists_subheading chosen run.settings.sampleLimit
      refine ⟨html, heading, ?_⟩
      rw [subheadings_eq, made, List.map_append, List.filterMap_append]
      simp [heading]
  · intro clicks
    rcases run.detail_shown clicks with ⟨none_made, none_put⟩ | ⟨ticket, target, table, last, shown,
      opened⟩
    · have overview := run.selection_eq
      rw [none_made] at overview
      refine ⟨?_, fun chosen => absurd overview chosen⟩
      constructor
      · intro _
        exact none_put
      · intro _
        exact overview
    · rcases run.selection_cases with ⟨none_made, -⟩ | ⟨earlier, own, made, chosen⟩
      · rw [none_made] at last
        cases last
      · have same := last
        rw [made, List.getLast?_concat, Option.some.injEq, Prod.mk.injEq] at same
        obtain ⟨rfl, rfl⟩ := same
        constructor
        · constructor
          · intro overview
            exact absurd overview chosen
          · intro empty
            rw [empty] at shown
            cases shown
        · intro _
          exact ⟨own, table, last, shown, opened⟩
  · intro ticket target member
    exact run.clicked_of_mem_selections member

end Run

end SpanDashboard
