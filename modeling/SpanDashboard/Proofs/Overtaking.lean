import SpanDashboard.Proofs.Contents

/-!
# Overtaken calls for rows

The count that `append_view` notes, the `current_generation`, is that of the last call for a table
in the container, which may still wait for its reply. If that reply comes first and is for another
view, the call for rows is overtaken: the table changes under it, its count stays current, and its
rows end up below the header of the other view (`mixed_of_overtaken`). This is the only way in which
the rows of a table come to be mixed (`uniform_or_overtaken`).
-/

set_option autoImplicit false

namespace SpanDashboard

theorem Reply.rows_fits {view : View} {reply : Reply} {rows : List Row}
    (read : reply.rows view = .ok rows) : ∀ row ∈ rows, row.Fits := by
  cases reply with
  | error failure => cases read
  | ok body =>
    cases given : Response.rows view body with
    | error fault => simp [Reply.rows, given, Except.mapError, bind, Except.bind] at read
    | ok found =>
      simp only [Reply.rows, given, Except.mapError, bind, Except.bind] at read
      obtain rfl := Except.ok.inj read
      exact Response.rows_fits given

theorem Call.eq_append {call : Call} (adding : call.purpose = .append) :
    ∃ view key, call = .append view key := by
  cases call with
  | append view key => exact ⟨view, key, rfl⟩
  | render view key => cases adding
  | renderNamed name key => cases adding
  | activate cell rowKey => cases adding
  | refresh now => cases adding

namespace Contents

theorem uniform_new (view : View) (rows : List Row) : (new view rows).Uniform := by
  intro entry member
  obtain ⟨row, -, rfl⟩ := List.mem_map.1 member
  rfl

theorem Uniform.add {t : Contents} (uniform : t.Uniform) (rows : List Row) :
    (t.add t.header rows).Uniform := by
  intro entry member
  rcases List.mem_append.1 member with old | new
  · exact uniform entry old
  · obtain ⟨row, -, rfl⟩ := List.mem_map.1 new
    rfl

end Contents

namespace Run

/-- The rows in a container fit. -/
theorem contents_fit (run : Run) (c : Container) {t : Contents} (shown : run.contents c = some t) :
    ∀ entry ∈ t.rows, entry.2.Fits := by
  induction run using Run.induction generalizing t with
  | start settings => cases shown
  | step run e ih =>
    rcases run.contents_step e c with same | ⟨ticket, reply, r, rows, rfl, -, -, -, read, placed⟩
    · rw [same] at shown
      exact ih shown
    · rw [placed] at shown
      have fit : ∀ entry ∈ rows.map fun row => (r.view, row), entry.2.Fits := by
        intro entry member
        obtain ⟨row, given, rfl⟩ := List.mem_map.1 member
        exact Reply.rows_fits read row given
      by_cases adding : r.purpose = .append
      · rw [Request.place_of_append adding] at shown
        obtain ⟨old, before, rfl⟩ := Option.map_eq_some_iff.1 shown
        exact List.forall_mem_append.2 ⟨ih before, fit⟩
      · rw [Request.place_of_ne_append adding] at shown
        obtain rfl := Option.some.inj shown
        exact fit

/-- A current request for the table of a view is on its way at the end of a run, and it gets its
reply in the events that follow. -/
inductive Served (run : Run) (c : Container) (view : View) : List Event → Prop where
  | intro {ticket : Nat} {r : Request} {first last : List Event} {reply : Reply} {rows : List Row}
      (waits : run.session.waiting.lookup ticket = some r) (here : r.container = c)
      (replacing : r.purpose ≠ .append)
      (current : run.session.dashboard.generation c = r.generation) (about : r.view = view)
      (unanswered : Unanswered ticket first) (read : reply.rows view = .ok rows) :
      Served run c view (first ++ .answer ticket reply :: last)

theorem Served.append {run : Run} {c : Container} {view : View} {later : List Event}
    (served : run.Served c view later) (more : List Event) : run.Served c view (later ++ more) := by
  cases served with
  | intro waits here replacing current about unanswered read =>
    rw [List.append_assoc]
    exact .intro waits here replacing current about unanswered read

/-- As long as no call for a table begins, the header of a container changes only to that of a
request that has been on its way. -/
theorem header_cases (run : Run) {c : Container} {later : List Event}
    (alone : Unreplaced c later) :
    ((run.extend later).contents c).map Contents.header =
      (run.contents c).map Contents.header ∨
    ∃ view, run.Served c view later ∧
      ((run.extend later).contents c).map Contents.header = some view := by
  induction later using List.reverseRecOn with
  | nil => exact .inl (by rw [extend_nil])
  | append_singleton later e ih =>
    have earlier : Unreplaced c later := (unreplaced_append.1 alone).1
    -- an event that leaves the header as it was adds nothing to the cases
    have kept (same : ((run.extend (later ++ [e])).contents c).map Contents.header =
        ((run.extend later).contents c).map Contents.header) :
        ((run.extend (later ++ [e])).contents c).map Contents.header =
          (run.contents c).map Contents.header ∨
        ∃ view, run.Served c view (later ++ [e]) ∧
          ((run.extend (later ++ [e])).contents c).map Contents.header = some view := by
      rw [same]
      rcases ih earlier with unchanged | ⟨view, served, header⟩
      · exact .inl unchanged
      · exact .inr ⟨view, served.append [e], header⟩
    rw [← extend_extend] at kept ⊢
    rcases (run.extend later).contents_step e c with
      same | ⟨ticket, reply, r, rows, rfl, waits, here, current, read, placed⟩
    · exact kept (by rw [same])
    · by_cases replacing : r.purpose = .append
      · apply kept
        rw [placed, Request.place_of_append replacing, Option.map_map]
        rfl
      · obtain ⟨unanswered, begun⟩ := run.waiting_alone earlier waits here replacing
        rw [run.generation_alone earlier] at current
        refine .inr ⟨r.view, .intro begun here replacing current rfl unanswered read, ?_⟩
        rw [placed, Request.place_of_ne_append replacing]
        rfl

/-- As long as no call for a table begins, a request that is served has its header stay: no other
request may replace the table. -/
theorem header_served (run : Run) {c : Container} {later : List Event}
    (alone : Unreplaced c later) {view : View}
    (served : run.Served c view later) :
    ((run.extend later).contents c).map Contents.header = some view := by
  cases served with
  | @intro ticket r first last reply rows waits here replacing current about unanswered read =>
    subst about here
    obtain ⟨before_reply, from_reply⟩ := unreplaced_append.1 alone
    have after_reply : Unreplaced r.container last := by
      intro other member
      exact from_reply other (List.mem_cons_of_mem _ member)
    have waits_still : (run.extend first).session.waiting.lookup ticket = some r := by
      rw [run.lookup_extend (run.lt_of_waiting waits) unanswered]
      exact waits
    have current_still : (run.extend first).session.dashboard.generation r.container =
        r.generation := by
      rw [run.generation_alone before_reply]
      exact current
    have placed := contents_answer _ waits_still current_still read
    rw [Request.place_of_ne_append replacing] at placed
    have split : run.extend (first ++ .answer ticket reply :: last) =
        ((run.extend first).extend [.answer ticket reply]).extend last := by
      simp [extend]
    rw [split]
    rcases header_cases _ after_reply with kept | ⟨view, served, -⟩
    · rw [kept, placed]
      rfl
    · -- whoever is served afterwards was current before the reply, as was the request itself
      exfalso
      cases served with
      | @intro other r' _ _ _ _ waits' here' replacing' current' _ _ _ =>
        have nobody_new : Unreplaced r.container [.answer ticket reply] := unreplaced_iff.2 rfl
        obtain ⟨unanswered', waited⟩ := waiting_alone _ nobody_new waits' here' replacing'
        rw [generation_alone _ nobody_new, ← here'] at current'
        obtain rfl := current_unique _ waits_still replacing current_still waited replacing'
          current' here'
        have answered := unanswered' _ (List.mem_singleton_self _)
        simp [Event.reply?] at answered

/-- Whether every call for rows begins while its container shows a table of the view. -/
def Aimed (run : Run) : Prop :=
  ∀ (before : Run) (view : View) (key : Option DetailKey) (later : List Event),
    run = before.extend (.start (.append view key) :: later) →
      (before.contents view.container).map Contents.header = some view

theorem extend_one_inj {run other : Run} {e e' : Event}
    (same : run.extend [e] = other.extend [e']) :
    run = other ∧ e = e' := by
  obtain ⟨settings, events⟩ := run
  obtain ⟨settings', events'⟩ := other
  obtain ⟨rfl, appended⟩ := Run.mk.inj same
  obtain ⟨rfl, last⟩ := List.append_inj' appended rfl
  exact ⟨rfl, List.singleton_inj.1 last⟩

theorem aimed_initial (settings : Settings) : (Run.mk settings []).Aimed := by
  intro before view key later split
  simp [extend] at split

theorem Aimed.extend_one {run : Run} (aimed : run.Aimed) {e : Event}
    (shown : ∀ view key, e = .start (.append view key) →
      (run.contents view.container).map Contents.header = some view) :
    (run.extend [e]).Aimed := by
  intro before view key later split
  rcases List.eq_nil_or_concat later with rfl | ⟨rest, last, rfl⟩
  · obtain ⟨rfl, begun⟩ := extend_one_inj split
    exact shown view key begun
  · rw [List.concat_eq_append, ← List.cons_append, ← extend_extend] at split
    obtain ⟨prior, -⟩ := extend_one_inj split
    exact aimed before view key rest prior

/-- A call for rows that is overtaken: until its reply, which brings rows, no call for a table in
its container begins, but a request for a table of another view, which was on its way already, gets
its reply. -/
structure Overtaken (before : Run) (view : View) (key : Option DetailKey) (between : List Event)
    (reply : Reply) : Prop where
  unanswered : Unanswered before.calls.length between
  alone : Unreplaced view.container between
  served : ∃ other, other ≠ view ∧
    before.Served view.container other (.start (.append view key) :: between)
  brings : ∃ row rows, reply.rows view = .ok (row :: rows)

theorem unreplaced_append_call {view : View} {between : List Event}
    (alone : Unreplaced view.container between) (key : Option DetailKey) :
    Unreplaced view.container (.start (.append view key) :: between) := by
  intro other member
  rcases List.mem_cons.1 member with first | later
  · obtain rfl := Event.start.inj first
    rfl
  · exact alone other later

/-- The rows of a call that is overtaken end up below the header of another view. -/
theorem mixed_of_overtaken {before : Run} {view : View} {key : Option DetailKey}
    {between : List Event} {reply : Reply} (overtaken : before.Overtaken view key between reply) :
    ∃ t, (before.extend (.start (.append view key) ::
        (between ++ [.answer before.calls.length reply]))).contents view.container = some t ∧
      ¬ t.Uniform := by
  obtain ⟨other, different, served⟩ := overtaken.served
  obtain ⟨row, rows, read⟩ := overtaken.brings
  have header := before.header_served (unreplaced_append_call overtaken.alone key) served
  obtain ⟨t, shown, about⟩ := Option.map_eq_some_iff.1 header
  have target : (Call.append view key).container? = some view.container := rfl
  obtain ⟨r, request, begun, -⟩ := before.begun target
  obtain ⟨-, adding, counted⟩ := Call.request?_eq_some request
  obtain rfl : r.view = view := Call.view_eq_of_target request rfl
  have waits : (before.extend (.start (.append r.view key) :: between)).session.waiting.lookup
      before.calls.length = some r := by
    rw [extend_cons, lookup_extend _ (by simp [Event.call?]) overtaken.unanswered]
    exact begun
  have current : (before.extend
      (.start (.append r.view key) :: between)).session.dashboard.generation r.container =
        r.generation := by
    rw [extend_cons, counted]
    exact generation_alone _ overtaken.alone
  have placed := contents_answer _ waits current read
  rw [Request.place_of_append adding] at placed
  refine ⟨t.add r.view (row :: rows), ?_, ?_⟩
  · have split : before.extend (.start (.append r.view key) ::
        (between ++ [.answer before.calls.length reply])) =
          (before.extend (.start (.append r.view key) :: between)).extend
            [.answer before.calls.length reply] := by
      simp [extend]
    rw [split]
    exact placed.trans (congrArg _ shown)
  · intro uniform
    have same := uniform (r.view, row) (by simp [Contents.add])
    exact different (about.symm.trans same.symm)

/-- Whether a call for rows is overtaken in the course of a run. -/
def HasOvertaken (run : Run) : Prop :=
  ∃ (before : Run) (view : View) (key : Option DetailKey) (between : List Event) (reply : Reply)
    (rest : List Event),
    run = before.extend (.start (.append view key) ::
      (between ++ .answer before.calls.length reply :: rest)) ∧
    before.Overtaken view key between reply

/-- If rows are added below the header of another view, the call for them has been overtaken. -/
theorem overtaken_of_added (run : Run) (aimed : run.Aimed) {before : Run} {ticket : Nat}
    {reply : Reply} {later : List Event}
    (prior : run = before.extend (.answer ticket reply :: later))
    {r : Request} (waits : before.session.waiting.lookup ticket = some r)
    (current : before.session.dashboard.generation r.container = r.generation)
    (adding : r.purpose = .append) {row : Row} {rows : List Row}
    (read : reply.rows r.view = .ok (row :: rows)) {t : Contents}
    (shown : before.contents r.container = some t) (different : r.view ≠ t.header) :
    run.HasOvertaken := by
  obtain ⟨first, call, between, rfl, rfl, unanswered, request⟩ := before.waiting_since waits
  obtain ⟨-, purpose, counted⟩ := Call.request?_eq_some request
  obtain ⟨view, key, rfl⟩ := Call.eq_append (purpose.symm.trans adding)
  obtain rfl : r.view = view := Call.view_eq_of_target request rfl
  have alone : Unreplaced r.view.container between := by
    rw [extend_cons, generation_extend, counted] at current
    exact unreplaced_iff.2 (Nat.left_eq_add.1 current.symm)
  have split : run = first.extend (.start (.append r.view key) ::
      (between ++ .answer first.calls.length reply :: later)) := by
    rw [prior, extend_extend]
    rfl
  have header := aimed first r.view key _ split
  refine ⟨first, r.view, key, between, reply, later, split, unanswered, alone, ?_, row, rows, read⟩
  rcases first.header_cases (unreplaced_append_call alone key) with kept | ⟨other, served, changed⟩
  · rw [header, show r.view.container = r.container from rfl, shown] at kept
    exact absurd (Option.some.inj kept).symm different
  · rw [show r.view.container = r.container from rfl, shown] at changed
    refine ⟨other, ?_, served⟩
    intro same
    exact different (same.symm.trans (Option.some.inj changed).symm)

/-- The rows of a container are mixed only if a call for rows has been overtaken. -/
theorem uniform_or_overtaken (run : Run) (aimed : run.Aimed) {before : Run} {later : List Event}
    (prior : run = before.extend later) {c : Container} {t : Contents}
    (shown : before.contents c = some t) : t.Uniform ∨ run.HasOvertaken := by
  induction before using Run.induction generalizing later t with
  | start settings => cases shown
  | step before e ih =>
    rw [extend_extend] at prior
    rcases before.contents_step e c with same | ⟨ticket, reply, r, rows, rfl, waits, rfl, current,
      read, placed⟩
    · rw [same] at shown
      exact ih prior shown
    · by_cases adding : r.purpose = .append
      · rw [placed, Request.place_of_append adding] at shown
        obtain ⟨old, earlier, rfl⟩ := Option.map_eq_some_iff.1 shown
        rcases ih prior earlier with uniform | found
        · by_cases same : r.view = old.header
          · rw [same]
            exact .inl (uniform.add rows)
          · -- rows of another view come below the header; without rows nothing is mixed
            cases rows with
            | nil =>
              left
              intro entry member
              exact uniform entry (by simpa [Contents.add] using member)
            | cons row rows =>
              exact .inr (run.overtaken_of_added aimed prior waits current adding read earlier same)
        · exact .inr found
      · rw [placed, Request.place_of_ne_append adding] at shown
        obtain rfl := Option.some.inj shown
        exact .inl (Contents.uniform_new r.view rows)

/-- **Rows are mixed exactly if a call for them has been overtaken.** Let every call for rows begin
while its container shows a table of the view. Then in every state of the run all rows of a
container were rendered for the view of its header, if and only if no call for rows is overtaken;
and in that case every row has as many cells as the header. What is shown are the contents,
rendered. -/
theorem uniform_iff_not_overtaken (run : Run) (aimed : run.Aimed) :
    (∀ (before : Run) (later : List Event) (c : Container), run = before.extend later →
      before.shown c = (before.contents c).map (Contents.table run.settings.zone)) ∧
    ((∀ (before : Run) (later : List Event) (c : Container) (t : Contents),
      run = before.extend later → before.contents c = some t → t.Uniform) ↔ ¬ run.HasOvertaken) ∧
    (¬ run.HasOvertaken →
      ∀ (before : Run) (later : List Event) (c : Container) (t : Contents),
        run = before.extend later → before.contents c = some t → ∀ entry ∈ t.rows,
          (Table.row entry.1.spec run.settings.zone entry.2).count .td =
            (Table.headerHtml t.header.spec).count .th) := by
  refine ⟨?_, ⟨?_, ?_⟩, ?_⟩
  · rintro before later c rfl
    exact before.shown_eq c
  · rintro uniform ⟨before, view, key, between, reply, rest, prior, overtaken⟩
    obtain ⟨t, shown, mixed⟩ := mixed_of_overtaken overtaken
    refine mixed (uniform _ rest _ t ?_ shown)
    rw [prior]
    simp [extend]
  · intro alone before later c t prior shown
    exact (run.uniform_or_overtaken aimed prior shown).resolve_right alone
  · intro alone before later c t prior shown entry member
    have uniform := (run.uniform_or_overtaken aimed prior shown).resolve_right alone
    rw [uniform entry member]
    exact Table.count_row_eq_header (before.contents_fit c shown entry member) t.header _

/-- The error spans of a name are shown; the running ones are asked for, and then, before their
reply, more error spans. -/
def raced : Run where
  settings := {}
  events := [
    .start (.render .error (some ⟨"a", none⟩)), .answer 0 (.ok "[\x7b\x7d]"),
    .start (.render .running (some ⟨"a", none⟩)), .start (.append .error (some ⟨"a", none⟩)),
    .answer 1 (.ok "[]"), .answer 2 (.ok "[\x7b\x7d]")]

theorem raced_contents :
    raced.contents .detail = some ⟨.running, [(.error, SpanDetail.blank.toRow)]⟩ := by
  rfl

theorem raced_aimed : raced.Aimed := by
  have begun := aimed_initial {}
  have rendered := begun.extend_one (e := .start (.render .error (some ⟨"a", none⟩)))
    (fun _ _ other => by cases other)
  have answered := rendered.extend_one (e := .answer 0 (.ok "[\x7b\x7d]"))
    (fun _ _ other => by cases other)
  have asked := answered.extend_one (e := .start (.render .running (some ⟨"a", none⟩)))
    (fun _ _ other => by cases other)
  have added := asked.extend_one (e := .start (.append .error (some ⟨"a", none⟩))) (by
    intro view key same
    obtain ⟨rfl, rfl⟩ := Call.append.inj (Event.start.inj same)
    rfl)
  have replaced := added.extend_one (e := .answer 1 (.ok "[]")) (fun _ _ other => by cases other)
  exact replaced.extend_one (e := .answer 2 (.ok "[\x7b\x7d]")) (fun _ _ other => by cases other)

/-- A row of eight cells comes to stand below a header of seven. -/
theorem raced_mixed :
    raced.Aimed ∧ ∃ t entry, raced.contents .detail = some t ∧ entry ∈ t.rows ∧ ¬ t.Uniform ∧
      (Table.row entry.1.spec raced.settings.zone entry.2).count .td = 8 ∧
      (Table.headerHtml t.header.spec).count .th = 7 := by
  refine ⟨raced_aimed, _, (.error, SpanDetail.blank.toRow), raced_contents, ?_, ?_, rfl, rfl⟩
  · exact List.mem_singleton_self _
  · intro uniform
    have same := uniform _ (List.mem_singleton_self _)
    cases same

theorem raced_overtaken : raced.Aimed ∧ raced.HasOvertaken := by
  refine ⟨raced_aimed, ?_⟩
  by_contra alone
  have uniform := (uniform_iff_not_overtaken raced raced_aimed).2.1.2 alone raced [] .detail _
    raced.extend_nil.symm raced_contents
  have same := uniform _ (List.mem_singleton_self _)
  cases same

end Run

end SpanDashboard
