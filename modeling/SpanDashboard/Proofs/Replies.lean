import SpanDashboard.Proofs.Skeleton
import SpanDashboard.Proofs.Completion
import SpanDashboard.Proofs.Supersession
import SpanDashboard.Proofs.WireFormat

/-!
# Replies are used as a whole

A reply brings records if its body is an array of which every item is a record of the view, and
`decode_table` fails in all other cases, for a reason that `Reply.Fails` lists. What becomes of a
call whose reply is used follows from that (`Run.all_or_nothing`): its table has the header of the
view and a row for each record, in their order, or else there is a failure and the call leaves the
page alone.
-/

set_option autoImplicit false

namespace SpanDashboard

/-- Reads a record of the type that a view shows. -/
def View.readRecord (view : View) (value : Json) : Except Problem Record :=
  match view with
  | .overview => (SpanAggregate.decode value).map .aggregate
  | .error | .running | .latency => (SpanDetail.decode value).map .detail

theorem View.readRow_eq (view : View) (value : Json) :
    view.readRow value = (view.readRecord value).map Record.toRow := by
  have aggregate (result : Except Problem SpanAggregate) :
      result.map SpanAggregate.toRow = (result.map Record.aggregate).map Record.toRow := by
    cases result <;> rfl
  have detail (result : Except Problem SpanDetail) :
      result.map SpanDetail.toRow = (result.map Record.detail).map Record.toRow := by
    cases result <;> rfl
  cases view with
  | overview => exact aggregate _
  | error => exact detail _
  | running => exact detail _
  | latency => exact detail _

namespace Reply

/-- A reply whose body is an array of these records. -/
def Brings (view : View) (reply : Reply) (rs : List Record) : Prop :=
  ∃ body items, reply = .ok body ∧ Json.parse? body = some (.array items) ∧
    List.Forall₂ (fun w r => view.readRecord w = .ok r) items rs

/-- The reasons for which a reply brings no records. -/
inductive Fails (view : View) (reply : Reply) : Failure → Prop where
  /-- There is no body. -/
  | unfetched {failure : Failure} (nobody : reply = .error failure) : Fails view reply failure
  | notJson {body : String} (fetched : reply = .ok body) (unread : Json.parse? body = none) :
      Fails view reply (.response (.notJson body))
  | notArray {body : String} {v : Json} (fetched : reply = .ok body)
      (read : Json.parse? body = some v) (other : ∀ items, v ≠ .array items) :
      Fails view reply (.response .notArray)
  /-- An item is no record, and it is the first one. -/
  | badRecord {body : String} {before after : List Json} {w : Json} {problem : Problem}
      (fetched : reply = .ok body) (read : Json.parse? body = some (.array (before ++ w :: after)))
      (good : ∀ v ∈ before, ∃ r, view.readRecord v = .ok r)
      (bad : view.readRecord w = .error problem) :
      Fails view reply (.response (.badRecord problem))

variable {view : View} {reply : Reply}

/-- A reply brings records or fails. -/
theorem brings_or_fails (view : View) (reply : Reply) :
    (∃ rs, reply.Brings view rs) ∨ ∃ failure, reply.Fails view failure := by
  cases reply with
  | error failure => exact .inr ⟨failure, .unfetched rfl⟩
  | ok body =>
    cases parsed : Json.parse? body with
    | none => exact .inr ⟨_, .notJson rfl parsed⟩
    | some v =>
      cases v with
      | array items =>
        cases read : items.mapM view.readRecord with
        | ok rs => exact .inl ⟨rs, body, items, rfl, parsed, mapM_eq_ok_iff.1 read⟩
        | error problem =>
          obtain ⟨before, w, after, rfl, good, bad⟩ := mapM_eq_error_iff.1 read
          exact .inr ⟨_, .badRecord rfl parsed good bad⟩
      | _ => exact .inr ⟨_, .notArray rfl parsed nofun⟩

theorem rows_of_brings {rs : List Record} (brings : reply.Brings view rs) :
    reply.rows view = .ok (rs.map Record.toRow) := by
  obtain ⟨body, items, rfl, parsed, all⟩ := brings
  have read : Response.rows view body = .ok (rs.map Record.toRow) := by
    rw [Response.rows_eq_ok_iff]
    refine ⟨items, parsed, ?_⟩
    rw [List.forall₂_map_right_iff]
    refine all.imp fun w r read => ?_
    rw [View.readRow_eq, read]
    rfl
  rw [Reply.rows, bind_eq_ok_iff]
  exact ⟨body, rfl, by rw [read]; rfl⟩

theorem rows_of_fails {failure : Failure} (fails : reply.Fails view failure) :
    reply.rows view = .error failure := by
  have faulty {body : String} {fault : ResponseFault} (fetched : reply = .ok body)
      (unread : Response.rows view body = .error fault) :
      reply.rows view = .error (.response fault) := by
    rw [fetched, Reply.rows]
    show (Response.rows view body).mapError Failure.response = .error (.response fault)
    rw [unread]
    rfl
  cases fails with
  | unfetched nobody =>
    rw [nobody]
    rfl
  | notJson fetched unread =>
    refine faulty fetched ?_
    rw [Response.rows, unread]
  | @notArray body v fetched read other =>
    refine faulty fetched ?_
    rw [Response.rows, read]
    cases v with
    | array items => exact absurd rfl (other items)
    | _ => rfl
  | @badRecord body before after w problem fetched read good bad =>
    refine faulty fetched ?_
    have unread : (before ++ w :: after).mapM view.readRow = .error problem := by
      refine mapM_eq_error_iff.2 ⟨before, w, after, rfl, fun v member => ?_, ?_⟩
      · obtain ⟨r, recorded⟩ := good v member
        exact ⟨r.toRow, by rw [View.readRow_eq, recorded]; rfl⟩
      · rw [View.readRow_eq, bad]
        rfl
    rw [Response.rows, read]
    show ((before ++ w :: after).mapM view.readRow).mapError ResponseFault.badRecord = _
    rw [unread]
    rfl

/-- The rows of a reply are those of the records that it brings. -/
theorem brings_of_rows {rows : List Row} (read : reply.rows view = .ok rows) :
    ∃ rs, reply.Brings view rs ∧ rows = rs.map Record.toRow := by
  rcases reply.brings_or_fails view with ⟨rs, brings⟩ | ⟨failure, fails⟩
  · exact ⟨rs, brings, Except.ok.inj (read.symm.trans (rows_of_brings brings))⟩
  · cases read.symm.trans (rows_of_fails fails)

end Reply

/-! ## Calls whose reply is used -/

/-- The table of some records: the header of the view, and a row for each record, in their order. -/
def Table.ofRecords (view : View) (zone : Zone) (rs : List Record) : Table :=
  ⟨(headerHtml view.spec).render,
    String.ofList (rs.flatMap fun r => (row view.spec zone r.toRow).chars)⟩

theorem Table.render_toRow (view : View) (zone : Zone) (rs : List Record) :
    Table.render view zone (rs.map Record.toRow) = Table.ofRecords view zone rs := by
  rw [Table.render, Table.ofRecords, Table.rows, Html.render, Html.render, Html.chars_concat,
    List.map_map, List.flatMap_map]
  rfl

namespace Dashboard.Resumed

variable {d : Dashboard} {r : Request} {reply : Reply} {step : Dashboard.Step Outcome}

/-- A reply that fails changes nothing on the page. -/
theorem of_fails (how : d.Resumed r reply step) (used : step.result ≠ .superseded)
    {failure : Failure} (fails : reply.Fails r.view failure) :
    step.result = .failed failure ∧ step.writes = [] := by
  have unread := Reply.rows_of_fails fails
  cases how with
  | stale old => exact absurd rfl used
  | failed current unread' =>
    obtain rfl := Except.error.inj (unread'.symm.trans unread)
    exact ⟨rfl, rfl⟩
  | rendered current read purpose => cases read.symm.trans unread
  | selected current read purpose => cases read.symm.trans unread
  | nothing current read purpose => cases read.symm.trans unread
  | added current read purpose => cases read.symm.trans unread

/-- The records of a reply become the new table. -/
theorem of_brings (how : d.Resumed r reply step) (used : step.result ≠ .superseded)
    {rs : List Record} (brings : reply.Brings r.view rs) (replacing : r.purpose ≠ .append) :
    step.result = .rendered rs.length ∧
      step.writes.filter Write.isTable =
        [.putTable r.container.id (Table.ofRecords r.view d.settings.zone rs)] := by
  have given := Reply.rows_of_brings brings
  rw [← Table.render_toRow]
  cases how with
  | stale old => exact absurd rfl used
  | failed current unread => cases unread.symm.trans given
  | rendered current read purpose =>
    obtain rfl := Except.ok.inj (read.symm.trans given)
    exact ⟨by rw [List.length_map], rfl⟩
  | @selected rows target current read purpose =>
    obtain rfl := Except.ok.inj (read.symm.trans given)
    refine ⟨by rw [List.length_map], ?_⟩
    cases target.subheading? d.settings.sampleLimit <;> rfl
  | nothing current read purpose => exact absurd purpose replacing
  | added current read purpose => exact absurd purpose replacing

/-- The records of a reply are added to a table, if there are any. -/
theorem of_brings_append (how : d.Resumed r reply step) (used : step.result ≠ .superseded)
    {rs : List Record} (brings : reply.Brings r.view rs) (adding : r.purpose = .append) :
    step.result = .appended rs.length ∧
      step.writes =
        if rs.isEmpty then []
        else [.addRows r.container.id (Table.ofRecords r.view d.settings.zone rs).body] := by
  have given := Reply.rows_of_brings brings
  rw [← Table.render_toRow]
  cases how with
  | stale old => exact absurd rfl used
  | failed current unread => cases unread.symm.trans given
  | rendered current read purpose => cases purpose.symm.trans adding
  | selected current read purpose => cases purpose.symm.trans adding
  | nothing current read purpose =>
    have none_given := Except.ok.inj (read.symm.trans given)
    obtain rfl := List.map_eq_nil_iff.1 none_given.symm
    exact ⟨rfl, rfl⟩
  | @added row rows current read purpose =>
    have some_given : row :: rows = rs.map Record.toRow := Except.ok.inj (read.symm.trans given)
    cases rs with
    | nil => cases some_given
    | cons first others =>
      have same_length := congrArg List.length some_given
      rw [List.length_map, List.length_cons] at same_length
      exact ⟨by rw [same_length], by rw [some_given]; rfl⟩

/-- An outcome with a number of records tells that the reply brings as many. -/
theorem result_eq_iff (how : d.Resumed r reply step) (used : step.result ≠ .superseded)
    {counted : Nat → Outcome} (exact : ∀ {m n}, counted m = counted n → m = n)
    (other : ∀ n failure, counted n ≠ .failed failure)
    (brought : ∀ rs, reply.Brings r.view rs → step.result = counted rs.length) (n : Nat) :
    step.result = counted n ↔ ∃ rs, reply.Brings r.view rs ∧ rs.length = n := by
  constructor
  · intro same
    rcases reply.brings_or_fails r.view with ⟨rs, brings⟩ | ⟨failure, fails⟩
    · exact ⟨rs, brings, exact ((brought rs brings).symm.trans same)⟩
    · have failed := (how.of_fails used fails).1
      exact absurd (same.symm.trans failed) (other n failure)
  · rintro ⟨rs, brings, rfl⟩
    exact brought rs brings

end Dashboard.Resumed

namespace Run

/-- The run after a call has begun and got a reply. -/
def withReply (run : Run) (call : Call) (between : List Event) (reply : Reply)
    (rest : List Event) : Run :=
  run.extend (.start call :: (between ++ .answer run.calls.length reply :: rest))

/-- What a call has written. -/
def writesOf (run : Run) (ticket : Nat) : List Write :=
  (run.account ticket).filterMap Effect.write?

/-- The reply to a call that is not superseded is used in a dashboard with the settings of the run,
and the call has the outcome and the writes of this use. -/
theorem used_with_reply (run : Run) {call : Call} {view : View} {key : Option DetailKey}
    (target : call.target? = some (view, key)) {between : List Event}
    (unanswered : Unanswered run.calls.length between) (alone : Unreplaced view.container between)
    (reply : Reply) (rest : List Event) :
    ∃ (d : Dashboard) (r : Request) (step : Dashboard.Step Outcome),
      d.Resumed r reply step ∧ step.result ≠ .superseded ∧ r.view = view ∧
        r.purpose = call.purpose ∧ d.settings = run.settings ∧
        (run.withReply call between reply rest).outcomes run.calls.length = [step.result] ∧
        (run.withReply call between reply rest).writesOf run.calls.length =
          call.stamps run.settings ++ step.writes := by
  have here := Call.container?_of_target target
  obtain ⟨r, request, begun, effects_begun⟩ := run.begun here
  have waits : (run.extend (.start call :: between)).session.waiting.lookup run.calls.length =
      some r := by
    rw [extend_cons, lookup_extend _ (by simp [Event.call?]) unanswered]
    exact begun
  obtain ⟨step, how, effects_eq⟩ := Session.moment_effects_of_some waits reply
  obtain ⟨about, purpose, counted⟩ := Call.request?_eq_some request
  have same_view := Call.view_eq_of_target request target
  -- The reply is current, since no call for a table has begun in the container after this one.
  have current : (run.extend (.start call :: between)).session.dashboard.generation r.container =
      r.generation := by
    have same_container : r.container = view.container := by rw [Request.container, same_view]
    rw [extend_cons, generation_alone _ (same_container ▸ alone), counted]
  refine ⟨_, r, step, how, ?_, same_view, purpose, (remembers _).settings_eq, ?_, ?_⟩
  · rw [Ne, how.superseded_iff_generation]
    exact fun old => old current
  · rw [withReply, outcomes, account_answered run call unanswered, List.filterMap_append,
      outcome_begun run here, effects_eq]
    simp [Effect.outcome?, Effect.completion?]
  · rw [withReply, writesOf, account_answered run call unanswered, List.filterMap_append,
      effects_begun, effects_eq, filterMap_write?_ended]
    simp [Effect.write?, List.filterMap_cons]

/-- **A reply is used as a whole or not at all.** A reply brings records or fails. A call that is
not superseded fails with its reply, and then writes nothing beyond the stamp of a refresh. It
replaces the table exactly if the reply brings records, and the new table has a row for each of
them, in their order. Likewise for a call for more rows, except that no rows are added where there
are no records. -/
theorem all_or_nothing (run : Run) :
    (∀ view (reply : Reply),
      (∃ rs, reply.Brings view rs) ∨ ∃ failure, reply.Fails view failure) ∧
    ∀ call view key between reply rest, call.target? = some (view, key) →
      Unanswered run.calls.length between → Unreplaced view.container between →
      (∀ failure, reply.Fails view failure →
        (run.withReply call between reply rest).outcomes run.calls.length = [.failed failure] ∧
        (run.withReply call between reply rest).writesOf run.calls.length =
          call.stamps run.settings) ∧
      (call.purpose ≠ .append →
        (∀ n, (run.withReply call between reply rest).outcomes run.calls.length = [.rendered n] ↔
          ∃ rs, reply.Brings view rs ∧ rs.length = n) ∧
        ∀ rs, reply.Brings view rs →
          (run.withReply call between reply rest).tableWrites run.calls.length =
            [.putTable view.container.id (Table.ofRecords view run.settings.zone rs)]) ∧
      (call.purpose = .append →
        (∀ n, (run.withReply call between reply rest).outcomes run.calls.length = [.appended n] ↔
          ∃ rs, reply.Brings view rs ∧ rs.length = n) ∧
        ∀ rs, reply.Brings view rs →
          (run.withReply call between reply rest).writesOf run.calls.length =
            if rs.isEmpty then []
            else [.addRows view.container.id
              (Table.ofRecords view run.settings.zone rs).body]) := by
  refine ⟨Reply.brings_or_fails, ?_⟩
  intro call view key between reply rest target unanswered alone
  obtain ⟨d, r, step, how, used, rfl, purpose, settings_eq, outcomes_eq, writes_eq⟩ :=
    run.used_with_reply target unanswered alone reply rest
  have tables_eq : (run.withReply call between reply rest).tableWrites run.calls.length =
      step.writes.filter Write.isTable := by
    show ((run.withReply call between reply rest).writesOf run.calls.length).filter
      Write.isTable = _
    rw [writes_eq, List.filter_append, call.stamps_not_table, List.nil_append]
  rw [outcomes_eq, writes_eq, tables_eq, ← purpose, ← settings_eq]
  simp only [List.cons.injEq, and_true]
  refine ⟨fun failure fails => ?_, fun replacing => ⟨?_, fun rs brings => ?_⟩,
    fun adding => ⟨?_, fun rs brings => ?_⟩⟩
  · obtain ⟨failed, nothing⟩ := how.of_fails used fails
    exact ⟨failed, by rw [nothing, List.append_nil]⟩
  · exact how.result_eq_iff used Outcome.rendered.inj nofun fun rs brings =>
      (how.of_brings used brings replacing).1
  · exact (how.of_brings used brings replacing).2
  · exact how.result_eq_iff used Outcome.appended.inj nofun fun rs brings =>
      (how.of_brings_append used brings adding).1
  · -- Only a refresh stamps, and it asks for a new table.
    have unstamped : call.stamps d.settings = [] := by
      cases call with
      | append view key => rfl
      | _ => cases purpose.symm.trans adding
    rw [unstamped, List.nil_append]
    exact (how.of_brings_append used brings adding).2

/-- A span's failures are asked for, and a refresh fails before their reply. -/
def asked (body : String) : Run :=
  withReply ⟨{}, []⟩ (.activate .errorCount "a")
    [.start (.refresh 5), .answer 1 (.error (.fetch ""))] (.ok body) []

/-- A record in the reply is shown, but not if a number follows it. -/
theorem asked_all_or_nothing :
    (asked "[\x7b\x7d]").outcomes 0 = [.rendered 1] ∧
      (∃ problem, (asked "[\x7b\x7d, 1]").outcomes 0 =
        [.failed (.response (.badRecord problem))]) ∧
      (asked "[\x7b\x7d, 1]").writesOf 0 = [] := by
  have alone : Unreplaced View.error.container
      [.start (.refresh 5), .answer 1 (.error (.fetch ""))] := by
    intro other member
    obtain rfl : other = .refresh 5 := by simpa using member
    rfl
  have used (body : String) := (all_or_nothing ⟨{}, []⟩).2 (.activate .errorCount "a") .error
    (some ⟨"a", none⟩) _ (.ok body) [] rfl (by simp [Unanswered, Event.reply?, calls]) alone
  have brings : Reply.Brings .error (.ok "[\x7b\x7d]") [.detail .blank] :=
    ⟨_, [.object []], rfl, rfl, .cons rfl .nil⟩
  have read : Json.parse? "[\x7b\x7d, 1]" = some (.array ([.object []] ++ .int 1 :: [])) := rfl
  obtain ⟨problem, fails⟩ : ∃ problem,
      Reply.Fails .error (.ok "[\x7b\x7d, 1]") (.response (.badRecord problem)) :=
    ⟨_, .badRecord rfl read (List.forall_mem_singleton.2 ⟨.detail .blank, rfl⟩) rfl⟩
  obtain ⟨failed, nothing⟩ := (used _).1 _ fails
  exact ⟨(((used _).2.1 (by decide)).1 1).2 ⟨_, brings, rfl⟩, ⟨problem, failed⟩, nothing⟩

end Run

end SpanDashboard
