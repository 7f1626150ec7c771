import SpanDashboard.Proofs.Share
import SpanDashboard.Proofs.Supersession

/-!
# The containers do not interfere

A run and the run of a container's share alone look the same to somebody who looks at the container.
Both keep the same requests under the same places and the same count (`Mirrors`), and each event of
the run either is an event of the share, and then both do the same, or is none, and then nothing is
seen of it. So two runs with the same share look the same.
-/

set_option autoImplicit false

namespace SpanDashboard

/-! ## What a step can touch -/

/-- A write is within one container at most. -/
theorem Write.isWithin_unique {c other : Container} {w : Write} (here : w.isWithin c = true)
    (there : w.isWithin other = true) : other = c := by
  have apart : ∀ c other : Container, c.id = other.subheadingId → False := by
    intro c other
    cases c <;> cases other <;> decide
  have headings : ∀ c other : Container, c.subheadingId = other.subheadingId → c = other := by
    intro c other
    cases c <;> cases other <;> decide
  simp only [isWithin, Bool.or_eq_true, decide_eq_true_eq] at here there
  rcases here with table | heading <;> rcases there with table' | heading'
  · exact Container.id_injective (table'.symm.trans table)
  · exact (apart _ _ (table.symm.trans heading')).elim
  · exact (apart _ _ (table'.symm.trans heading)).elim
  · exact headings _ _ (heading'.symm.trans heading)

/-- The stamp of a refresh is in no container. -/
theorem Call.stamps_outside (settings : Settings) (call : Call) (c : Container) {w : Write}
    (member : w ∈ call.stamps settings) : w.isWithin c = false := by
  rcases call.stamps_cases settings with nothing | ⟨html, stamp⟩
  · rw [nothing] at member
    cases member
  · rw [stamp, List.mem_singleton] at member
    subst member
    have outside : ∀ c : Container, refreshStampId ≠ c.id ∧ refreshStampId ≠ c.subheadingId := by
      intro c
      cases c <;> decide
    simp [Write.isWithin, Write.id, outside c]

/-- A selection is made in the detail container. -/
theorem Call.selection?_elsewhere (call : Call) (elsewhere : call.isFor .detail = false)
    (outcome : Outcome) : call.selection? outcome = none := by
  cases call with
  | activate cell rowKey => cases cell <;> cases elsewhere
  | render view key => rfl
  | renderNamed name key => rfl
  | append view key => rfl
  | refresh now => rfl

namespace Dashboard

/-- A reply changes nothing outside the container of its request. -/
theorem Resumed.isWithin {d : Dashboard} {r : Request} {reply : Reply}
    {step : Dashboard.Step Outcome} (how : d.Resumed r reply step) {w : Write}
    (member : w ∈ step.writes) : w.isWithin r.container = true := by
  cases how with
  | stale old => cases member
  | failed current unread => cases member
  | rendered current read purpose =>
    rw [List.mem_singleton.1 member]
    simp [Write.isWithin, Write.id]
  | @selected rows target current read purpose =>
    rcases List.mem_cons.1 member with rfl | heading
    · simp [Write.isWithin, Write.id]
    · obtain ⟨html, -, rfl⟩ := Option.map_eq_some_iff.1 (Option.mem_toList.1 heading)
      simp [Write.isWithin, Write.id]
  | nothing current read purpose => cases member
  | added current read purpose =>
    rw [List.mem_singleton.1 member]
    simp [Write.isWithin, Write.id]

/-- What a reply writes and what becomes of its call depends on the settings and on the count of one
container alone. -/
theorem resume_congr (d other : Dashboard) (r : Request) (reply : Reply)
    (settings : d.settings = other.settings)
    (generation : d.generation r.container = other.generation r.container) :
    (d.resume r reply).writes = (other.resume r reply).writes ∧
      (d.resume r reply).result = (other.resume r reply).result := by
  have current : d.isCurrent r = other.isCurrent r := by
    rw [isCurrent, isCurrent, generation]
  unfold resume
  rw [current]
  split
  · cases reply.rows r.view with
    | error failure => exact ⟨rfl, rfl⟩
    | ok rows =>
      simp only [commit, settings]
      cases r.purpose with
      | render => exact ⟨rfl, rfl⟩
      | select target => exact ⟨rfl, rfl⟩
      | append => cases rows <;> exact ⟨rfl, rfl⟩
  · exact ⟨rfl, rfl⟩

end Dashboard

/-! ## What is seen of a step -/

section Seen

variable {c : Container} {calls : List Call}

theorem filterMap_seen?_within {ws : List Write} (within : ∀ w ∈ ws, w.isWithin c = true) :
    (ws.map Effect.write).filterMap (Effect.seen? c calls) = ws.map Sight.write := by
  rw [List.filterMap_map, ← List.filterMap_eq_map]
  apply List.filterMap_congr
  intro w member
  exact if_pos (within w member)

theorem filterMap_seen?_outside {ws : List Write} (outside : ∀ w ∈ ws, w.isWithin c = false) :
    (ws.map Effect.write).filterMap (Effect.seen? c calls) = [] := by
  rw [List.filterMap_map, List.filterMap_eq_nil_iff]
  intro w member
  exact if_neg (by simp [outside w member])

end Seen

/-- The ticket on an effect. -/
def Effect.ticket? : Effect → Option Nat
  | .write _ => none
  | .fetch ticket _ | .completed ticket _ _ => some ticket

namespace Run

theorem calls_start (run : Run) (call : Call) :
    (run.extend [.start call]).calls = run.calls ++ [call] :=
  run.calls_extend [.start call]

theorem calls_answer (run : Run) (ticket : Nat) (reply : Reply) :
    (run.extend [.answer ticket reply]).calls = run.calls := by
  rw [calls_extend]
  exact List.append_nil _

/-- The tickets in the journal have been given out. -/
theorem lt_of_ticket (run : Run) {effect : Effect} {ticket : Nat}
    (member : effect ∈ run.journal.flatMap Moment.effects) (own : effect.ticket? = some ticket) :
    ticket < run.calls.length := by
  induction run using Run.induction with
  | start settings => cases member
  | step run e ih =>
    rw [calls_extend, List.length_append]
    rw [journal_extend_one, List.flatMap_append, List.mem_append] at member
    rcases member with earlier | now
    · exact Nat.lt_add_right _ (ih earlier)
    · have history := run.remembers
      have turn := run.session.step_turn e
      rw [List.flatMap_singleton] at now
      unfold Session.moment at now
      generalize (run.session.step e).1 = next at turn
      generalize (run.session.step e).2 = effects at turn now
      cases turn with
      | asked request =>
        rcases List.mem_append.1 now with stamp | fetch
        · obtain ⟨w, -, rfl⟩ := List.mem_map.1 stamp
          cases own
        · rw [List.mem_singleton.1 fetch] at own
          obtain rfl : run.session.started = ticket := Option.some.inj own
          simp [history.started_eq, Event.call?]
      | refused unknown =>
        rw [List.mem_singleton.1 now] at own
        obtain rfl : run.session.started = ticket := Option.some.inj own
        simp [history.started_eq, Event.call?]
      | ignored nobody => cases now
      | @resumed answered reply r step waits how =>
        rcases List.mem_append.1 now with written | completed
        · obtain ⟨w, -, rfl⟩ := List.mem_map.1 written
          cases own
        · rw [List.mem_singleton.1 completed] at own
          obtain rfl : answered = ticket := Option.some.inj own
          exact Nat.lt_add_right _ (run.lt_of_waiting waits)

/-- What has been seen stays as it was; the effects of the last step are added. -/
theorem seen_extend_one (run : Run) (e : Event) (c : Container) :
    (run.extend [e]).seen c =
      run.seen c ++
        (run.session.moment e).effects.filterMap (Effect.seen? c (run.extend [e]).calls) := by
  unfold seen
  rw [journal_extend_one, List.flatMap_append, List.filterMap_append, List.flatMap_singleton]
  congr 1
  apply List.filterMap_congr
  intro effect member
  have known := fun ticket => @run.lt_of_ticket effect ticket member
  cases effect with
  | write w => rfl
  | fetch ticket url => simp only [Effect.seen?, calls_extend, place?_append (known ticket rfl)]
  | completed ticket outcome selection =>
    simp only [Effect.seen?, calls_extend, place?_append (known ticket rfl)]

/-- What is seen of a reply that somebody in the container waits for. -/
theorem seen_answered (run : Run) {c : Container} {ticket place : Nat} {r : Request}
    (found : place? c run.calls ticket = some place)
    (waits : run.session.waiting.lookup ticket = some r) (here : r.container = c) (reply : Reply) :
    (run.extend [.answer ticket reply]).seen c =
      run.seen c ++ ((run.session.dashboard.resume r reply).writes.map Sight.write ++
        [.completed place (run.session.dashboard.resume r reply).result]) := by
  subst here
  have effects_eq : (run.session.moment (.answer ticket reply)).effects =
      (run.session.dashboard.resume r reply).writes.map Effect.write ++
        [.completed ticket (run.session.dashboard.resume r reply).result
          (run.session.dashboard.resume r reply).dashboard.selection] := by
    simp [Session.moment, Session.step, Session.answer, waits]
  have how := run.session.dashboard.resume_resumed r reply
  rw [seen_extend_one, effects_eq, List.filterMap_append,
    filterMap_seen?_within fun w member => how.isWithin member, calls_answer]
  simp [Effect.seen?, found]

/-- Nothing is seen of a reply that nobody in the container waits for. -/
theorem seen_unheard (run : Run) {c : Container} {ticket : Nat}
    (unheard : place? c run.calls ticket = none ∨ run.session.waiting.lookup ticket = none)
    (reply : Reply) : (run.extend [.answer ticket reply]).seen c = run.seen c := by
  rw [seen_extend_one]
  cases waits : run.session.waiting.lookup ticket with
  | none => rw [Session.moment_effects_of_none waits, List.filterMap_nil, List.append_nil]
  | some r =>
    have nowhere : place? c run.calls ticket = none := by
      rcases unheard with nowhere | nobody
      · exact nowhere
      · rw [nobody] at waits
        cases waits
    have elsewhere : r.container ≠ c := by
      rintro rfl
      obtain ⟨call, begun, request⟩ := run.remembers.waiting_eq waits
      have belongs : call.isFor r.container = true :=
        decide_eq_true (Call.request?_eq_some request).1
      rw [place?_eq_some_iff.2 ⟨call, begun, belongs, rfl⟩] at nowhere
      cases nowhere
    obtain ⟨step, how, effects_eq⟩ := Session.moment_effects_of_some waits reply
    have outside : ∀ w ∈ step.writes, w.isWithin c = false := by
      intro w member
      by_contra within
      exact elsewhere
        (Write.isWithin_unique (eq_true_of_ne_false within) (how.isWithin member))
    rw [effects_eq, List.filterMap_append, filterMap_seen?_outside outside, calls_answer]
    simp [Effect.seen?, nowhere]

/-- What is seen of the beginning of a call for the container. -/
theorem seen_begun (run : Run) {c : Container} {call : Call} (target : call.container? = some c)
    {r : Request}
    (waits : (run.extend [.start call]).session.waiting.lookup run.calls.length = some r) :
    (run.extend [.start call]).seen c =
      run.seen c ++ [.fetch (run.calls.countP (Call.isFor c)) r.url] := by
  obtain ⟨own, -, begun, effects_eq⟩ := run.begun target
  obtain rfl : own = r := Option.some.inj (begun.symm.trans waits)
  have belongs : call.isFor c = true := decide_eq_true target
  rw [seen_extend_one, effects_eq, List.filterMap_append,
    filterMap_seen?_outside fun w member => call.stamps_outside run.settings c member, calls_start]
  simp [Effect.seen?, place?_last, belongs]

/-- Nothing is seen of the beginning of a call that is not for the container. -/
theorem seen_begun_elsewhere (run : Run) {c : Container} {call : Call}
    (elsewhere : call.isFor c = false) : (run.extend [.start call]).seen c = run.seen c := by
  have nowhere : place? c (run.calls ++ [call]) run.session.started = none := by
    rw [run.remembers.started_eq, place?_last, elsewhere]
    rfl
  have turn := run.session.step_turn (.start call)
  rw [seen_extend_one, calls_start]
  unfold Session.moment
  generalize (run.session.step (.start call)).1 = next at turn
  generalize (run.session.step (.start call)).2 = effects at turn ⊢
  cases turn with
  | asked request =>
    rw [List.filterMap_append, filterMap_seen?_outside fun w member =>
      call.stamps_outside run.session.dashboard.settings c member]
    simp [Effect.seen?, nowhere]
  | refused unknown => simp [Effect.seen?, nowhere]

end Run

/-! ## The run of a share alone -/

/-- The calls for a container, each without its time. -/
def Call.shared (c : Container) (calls : List Call) : List Call :=
  (calls.filter (Call.isFor c)).map Call.untimed

namespace Call

variable (c : Container) (calls : List Call)

theorem length_shared : (shared c calls).length = calls.countP (isFor c) := by
  rw [shared, List.length_map, List.countP_eq_length_filter]

theorem isFor_of_mem_shared {call : Call} (member : call ∈ shared c calls) :
    call.isFor c = true := by
  obtain ⟨own, kept, rfl⟩ := List.mem_map.1 member
  rw [isFor_untimed]
  exact (List.mem_filter.1 kept).2

theorem countP_shared : (shared c calls).countP (isFor c) = calls.countP (isFor c) := by
  rw [List.countP_eq_length.2 fun call member => isFor_of_mem_shared c calls member, length_shared]

/-- A container counts the calls in its own share. -/
theorem replacements_shared : replacements c (shared c calls) = replacements c calls := by
  have belongs : ∀ call : Call, (call.replaces c && call.isFor c) = call.replaces c := by
    intro call
    unfold replaces isFor
    cases decide (call.container? = some c) <;> simp
  rw [shared, replacements, replacements, List.countP_map, List.countP_filter]
  congr 1
  funext call
  simp [belongs]

/-- Among the calls for the container alone, the place of a call is its ticket. -/
theorem place?_shared {place : Nat} (known : place < (shared c calls).length) :
    place? c (shared c calls) place = some place := by
  rw [place?_eq_some_iff]
  refine ⟨(shared c calls)[place], List.getElem?_eq_getElem known,
    isFor_of_mem_shared c calls (List.getElem_mem known), ?_⟩
  rw [List.countP_eq_length.2 fun call member =>
      isFor_of_mem_shared c calls (List.mem_of_mem_take member),
    List.length_take, Nat.min_eq_left (Nat.le_of_lt known)]

end Call

namespace Run

/-- The run in which nothing but the share of a container happens. -/
def only (run : Run) (c : Container) : Run :=
  ⟨run.settings, run.share c⟩

/-- A run and another one that is the same as far as a container is concerned. -/
structure Mirrors (c : Container) (run mirror : Run) : Prop where
  settings_eq : mirror.settings = run.settings
  calls_eq : mirror.calls = Call.shared c run.calls
  waiting_eq : ∀ {ticket place}, place? c run.calls ticket = some place →
    mirror.session.waiting.lookup place = run.session.waiting.lookup ticket
  seen_eq : mirror.seen c = run.seen c

theorem unanswered_start (call : Call) (ticket : Nat) : Unanswered ticket [.start call] := by
  intro e member
  rw [List.mem_singleton.1 member]
  rfl

theorem unanswered_other {ticket other : Nat} (different : ticket ≠ other) (reply : Reply) :
    Unanswered ticket [.answer other reply] := by
  intro e member
  rw [List.mem_singleton.1 member]
  exact if_neg different.symm

namespace Mirrors

variable {c : Container} {run mirror : Run}

theorem lt_of_place (same : Mirrors c run mirror) {ticket place : Nat}
    (found : place? c run.calls ticket = some place) : place < mirror.calls.length := by
  rw [same.calls_eq, Call.length_shared]
  exact place_lt found

theorem generation_eq (same : Mirrors c run mirror) :
    mirror.session.dashboard.generation c = run.session.dashboard.generation c := by
  rw [mirror.remembers.generation_eq, run.remembers.generation_eq, same.calls_eq,
    Call.replacements_shared]

/-- A call for the container begins in both runs alike. -/
theorem start_own (same : Mirrors c run mirror) {call : Call} (own : call.isFor c = true) :
    Mirrors c (run.extend [.start call]) (mirror.extend [.start call.untimed]) := by
  have target : call.container? = some c := of_decide_eq_true own
  have target' : call.untimed.container? = some c := by rw [Call.container?_untimed, target]
  have calls_eq : (mirror.extend [.start call.untimed]).calls =
      Call.shared c (run.extend [.start call]).calls := by
    rw [calls_start, calls_start, same.calls_eq]
    simp [Call.shared, own]
  obtain ⟨r, request, waits, -⟩ := run.begun target
  obtain ⟨r', request', waits', -⟩ := mirror.begun target'
  have counted : (mirror.extend [.start call.untimed]).session.dashboard.generation c =
      (run.extend [.start call]).session.dashboard.generation c := by
    rw [(mirror.extend _).remembers.generation_eq, (run.extend _).remembers.generation_eq,
      calls_eq, Call.replacements_shared]
  rw [Call.request?_untimed, same.settings_eq, Call.request?_congr target counted, request]
    at request'
  obtain rfl : r = r' := Option.some.inj request'
  refine ⟨same.settings_eq, calls_eq, ?_, ?_⟩
  · intro ticket place found
    by_cases new : ticket = run.calls.length
    · subst new
      rw [calls_start, place?_last, if_pos own, ← Call.length_shared, ← same.calls_eq] at found
      obtain rfl := Option.some.inj found
      exact waits'.trans waits.symm
    · have known := lt_of_place? found
      rw [calls_start, List.length_append, List.length_singleton] at known
      have older : ticket < run.calls.length := by omega
      rw [calls_start, place?_append older] at found
      rw [run.lookup_extend older (unanswered_start call ticket),
        mirror.lookup_extend (same.lt_of_place found) (unanswered_start _ place)]
      exact same.waiting_eq found
  · rw [mirror.seen_begun target' waits', run.seen_begun target waits, same.seen_eq, same.calls_eq,
      Call.countP_shared]

/-- A call that is not for the container makes no difference. -/
theorem start_elsewhere (same : Mirrors c run mirror) {call : Call}
    (elsewhere : call.isFor c = false) : Mirrors c (run.extend [.start call]) mirror := by
  refine ⟨same.settings_eq, ?_, ?_, ?_⟩
  · rw [calls_start, same.calls_eq]
    simp [Call.shared, elsewhere]
  · intro ticket place found
    rw [calls_start] at found
    have known := lt_of_place? found
    have not_new : ticket ≠ run.calls.length := by
      rintro rfl
      rw [place?_last, elsewhere] at found
      cases found
    rw [List.length_append, List.length_singleton] at known
    have older : ticket < run.calls.length := by omega
    rw [place?_append older] at found
    rw [run.lookup_extend older (unanswered_start call ticket)]
    exact same.waiting_eq found
  · rw [run.seen_begun_elsewhere elsewhere, same.seen_eq]

/-- A reply to a call for the container does the same in both runs. -/
theorem answer_own (same : Mirrors c run mirror) {ticket place : Nat} {r : Request}
    (found : place? c run.calls ticket = some place)
    (waits : run.session.waiting.lookup ticket = some r) (reply : Reply) :
    Mirrors c (run.extend [.answer ticket reply]) (mirror.extend [.answer place reply]) := by
  have waits' : mirror.session.waiting.lookup place = some r := (same.waiting_eq found).trans waits
  have here : r.container = c := by
    obtain ⟨call, begun, request⟩ := run.remembers.waiting_eq waits
    obtain ⟨own, begun', belongs, -⟩ := place?_eq_some_iff.1 found
    obtain rfl : call = own := Option.some.inj (begun.symm.trans begun')
    exact Option.some.inj
      ((Call.request?_eq_some request).1.symm.trans (of_decide_eq_true belongs))
  refine ⟨same.settings_eq, ?_, ?_, ?_⟩
  · rw [calls_answer, calls_answer, same.calls_eq]
  · intro other place' found'
    rw [calls_answer] at found'
    by_cases again : other = ticket
    · subst again
      obtain rfl : place = place' := Option.some.inj (found.symm.trans found')
      rw [session_extend_one, session_extend_one, (mirror.session.step_turn _).lookup_answered,
        (run.session.step_turn _).lookup_answered]
    · have apart : place' ≠ place := by
        rintro rfl
        exact again (place?_injective found found')
      rw [run.lookup_extend (lt_of_place? found') (unanswered_other again reply),
        mirror.lookup_extend (same.lt_of_place found') (unanswered_other apart reply)]
      exact same.waiting_eq found'
  · have mirrored : place? c mirror.calls place = some place := by
      rw [same.calls_eq]
      apply Call.place?_shared
      rw [← same.calls_eq]
      exact same.lt_of_place found
    obtain ⟨writes_eq, result_eq⟩ := Dashboard.resume_congr mirror.session.dashboard
      run.session.dashboard r reply
      (by rw [mirror.remembers.settings_eq, run.remembers.settings_eq, same.settings_eq])
      (by rw [here, same.generation_eq])
    rw [mirror.seen_answered mirrored waits' here, run.seen_answered found waits here,
      same.seen_eq, writes_eq, result_eq]

/-- A reply that no call for the container waits for makes no difference. -/
theorem answer_unheard (same : Mirrors c run mirror) {ticket : Nat}
    (unheard : place? c run.calls ticket = none ∨ run.session.waiting.lookup ticket = none)
    (reply : Reply) : Mirrors c (run.extend [.answer ticket reply]) mirror := by
  refine ⟨same.settings_eq, ?_, ?_, ?_⟩
  · rw [calls_answer, same.calls_eq]
  · intro other place found
    rw [calls_answer] at found
    by_cases again : other = ticket
    · subst again
      have nobody : run.session.waiting.lookup other = none := by
        rcases unheard with nowhere | nobody
        · rw [nowhere] at found
          cases found
        · exact nobody
      rw [run.lookup_extend_none (lt_of_place? found) nobody, same.waiting_eq found, nobody]
    · rw [run.lookup_extend (lt_of_place? found) (unanswered_other again reply)]
      exact same.waiting_eq found
  · rw [run.seen_unheard unheard, same.seen_eq]

end Mirrors

/-- A run is mirrored by the run of the share of a container alone. -/
theorem mirrors_only (run : Run) (c : Container) : Mirrors c run (run.only c) := by
  induction run using Run.induction with
  | start settings =>
    refine ⟨rfl, rfl, ?_, rfl⟩
    intro ticket place found
    cases lt_of_place? found
  | step run e ih =>
    have extended : (run.extend [e]).only c =
        (run.only c).extend (run.roster.share? c e).toList := by
      rw [only, share_extend_one]
      rfl
    rw [extended]
    cases e with
    | start call =>
      cases own : call.isFor c with
      | true => simpa [Roster.share?, own] using ih.start_own own
      | false => simpa [Roster.share?, own] using ih.start_elsewhere own
    | answer ticket reply =>
      cases found : place? c run.calls ticket with
      | none =>
        have same := ih.answer_unheard (.inl found) reply
        simpa [Roster.share?, roster_calls, found] using same
      | some place =>
        have open_iff := run.mem_unanswered_iff found
        cases waits : run.session.waiting.lookup ticket with
        | none =>
          have closed : ticket ∉ run.roster.unanswered := by simp [open_iff, waits]
          have same := ih.answer_unheard (.inr waits) reply
          simpa [Roster.share?, closed] using same
        | some r =>
          have unanswered : ticket ∈ run.roster.unanswered := by simp [open_iff, waits]
          have same := ih.answer_own found waits reply
          simpa [Roster.share?, roster_calls, unanswered, found] using same

/-! ## Two runs -/

section Read

variable {α : Type} {c : Container}

/-- What can be read off the effects that are seen can be read off what is seen. -/
theorem filterMap_seen (run : Run) {part : Effect → Option α} {shown : Sight → Option α}
    (agree : ∀ effect : Effect, (effect.seen? c run.calls).bind shown = part effect) :
    (run.seen c).filterMap shown = (run.journal.flatMap Moment.effects).filterMap part := by
  rw [seen, List.filterMap_filterMap]
  congr 1
  funext effect
  exact agree effect

theorem writes_seen (run : Run) :
    (run.seen c).filterMap Sight.write? = run.writes.filter (Write.isWithin c) := by
  have gathered : run.writes = (run.journal.flatMap Moment.effects).filterMap Effect.write? :=
    List.filterMap_flatMap.symm
  rw [gathered, List.filter_filterMap]
  apply run.filterMap_seen
  intro effect
  cases effect with
  | write w =>
    cases within : w.isWithin c <;>
      simp [Effect.write?, Effect.seen?, Sight.write?, Option.filter, within]
  | fetch ticket url =>
    cases found : place? c run.calls ticket <;>
      simp [Effect.write?, Effect.seen?, Sight.write?, found]
  | completed ticket outcome selection =>
    cases found : place? c run.calls ticket <;>
      simp [Effect.write?, Effect.seen?, Sight.write?, found]

theorem completions_eq_filterMap (run : Run) :
    run.completions = (run.journal.flatMap Moment.effects).filterMap Effect.completion? :=
  List.filterMap_flatMap.symm

theorem outcomes_seen (run : Run) {ticket place : Nat}
    (found : place? c run.calls ticket = some place) :
    (run.seen c).filterMap (Sight.outcome? place) = run.outcomes ticket := by
  have own : run.outcomes ticket =
      run.completions.filterMap fun done => if done.1 = ticket then some done.2 else none := by
    have listed := congrArg (List.map Prod.snd) (run.filter_completions ticket)
    rw [List.map_map, show Prod.snd ∘ (fun outcome : Outcome => (ticket, outcome)) = id from rfl,
      List.map_id] at listed
    rw [← listed, ← List.filterMap_eq_map, List.filterMap_filter]
    simp
  rw [own, completions_eq_filterMap, List.filterMap_filterMap]
  apply run.filterMap_seen
  intro effect
  cases effect with
  | write w =>
    cases within : w.isWithin c <;>
      simp [Effect.completion?, Effect.seen?, Sight.outcome?, within]
  | fetch other url =>
    cases place? c run.calls other <;> simp [Effect.completion?, Effect.seen?, Sight.outcome?]
  | completed other outcome selection =>
    by_cases same : other = ticket
    · subst same
      simp [Effect.completion?, Effect.seen?, Sight.outcome?, found]
    · have apart : place? c run.calls other ≠ some place := by
        intro found'
        exact same (place?_injective found found')
      cases found' : place? c run.calls other with
      | none => simp [Effect.completion?, Effect.seen?, found', same]
      | some place' =>
        have different : place' ≠ place := by
          rintro rfl
          exact apart found'
        simp [Effect.completion?, Effect.seen?, Sight.outcome?, found', same, different]

/-- All selections are made by calls for the detail container. -/
theorem selections_seen (run : Run) :
    (run.seen .detail).filterMap (Sight.selection? (Call.shared .detail run.calls)) =
      run.selections.map Prod.snd := by
  have made : run.selections.map Prod.snd = run.completions.filterMap fun done =>
      run.calls[done.1]?.bind fun call => call.selection? done.2 := by
    rw [selections, gather, List.map_filterMap]
    apply List.filterMap_congr
    intro done _
    rw [Option.map_map]
    exact Option.map_id'
  rw [made, completions_eq_filterMap, List.filterMap_filterMap]
  apply run.filterMap_seen
  intro effect
  cases effect with
  | write w =>
    cases within : w.isWithin .detail <;>
      simp [Effect.completion?, Effect.seen?, Sight.selection?, within]
  | fetch ticket url =>
    cases place? .detail run.calls ticket <;>
      simp [Effect.completion?, Effect.seen?, Sight.selection?]
  | completed ticket outcome selection =>
    cases found : place? .detail run.calls ticket with
    | some place =>
      obtain ⟨call, begun, -⟩ := place?_eq_some_iff.1 found
      have stands : (Call.shared .detail run.calls)[place]? = some call.untimed := by
        rw [Call.shared, List.getElem?_map, getElem?_filter_place found begun, Option.map_some]
      simp [Effect.completion?, Effect.seen?, Sight.selection?, found, begun, stands]
    | none =>
      cases begun : run.calls[ticket]? with
      | none => simp [Effect.completion?, Effect.seen?, found, begun]
      | some call =>
        have elsewhere : call.isFor .detail = false := by
          by_contra belongs
          rw [place?_eq_some_iff.2 ⟨call, begun, eq_true_of_ne_false belongs, rfl⟩] at found
          cases found
        simp [Effect.completion?, Effect.seen?, found, begun, call.selection?_elsewhere elsewhere]

end Read

/-- **The containers do not interfere.** If a container has the same share in two runs with the same
settings, then what is seen of it is the same: its calls have the same outcomes, and the same is
written to its table and its subheading in the same order. For the detail container the same
selections are made. -/
theorem undisturbed (run other : Run) (c : Container) (settings : run.settings = other.settings)
    (shared : run.share c = other.share c) :
    (∀ ticket place, place? c run.calls ticket = some place →
      ∃ ticket', place? c other.calls ticket' = some place ∧
        run.outcomes ticket = other.outcomes ticket') ∧
    run.writes.filter (Write.isWithin c) = other.writes.filter (Write.isWithin c) ∧
    run.seen c = other.seen c ∧
    (c = .detail →
      run.selections.map Prod.snd = other.selections.map Prod.snd ∧
      run.session.dashboard.selection = other.session.dashboard.selection) := by
  have only_eq : run.only c = other.only c := by
    rw [only, only, settings, shared]
  have mirrored := run.mirrors_only c
  rw [only_eq] at mirrored
  have mirrored' := other.mirrors_only c
  have calls_eq : Call.shared c run.calls = Call.shared c other.calls :=
    mirrored.calls_eq.symm.trans mirrored'.calls_eq
  have seen_eq : run.seen c = other.seen c := mirrored.seen_eq.symm.trans mirrored'.seen_eq
  refine ⟨?_, ?_, seen_eq, ?_⟩
  · intro ticket place found
    have bound : place < other.calls.countP (Call.isFor c) := by
      rw [← Call.length_shared, ← calls_eq, Call.length_shared]
      exact place_lt found
    obtain ⟨ticket', found'⟩ := exists_place bound
    exact ⟨ticket', found', by rw [← run.outcomes_seen found, seen_eq, other.outcomes_seen found']⟩
  · rw [← run.writes_seen, seen_eq, other.writes_seen]
  · rintro rfl
    have selections_eq : run.selections.map Prod.snd = other.selections.map Prod.snd := by
      rw [← run.selections_seen, seen_eq, calls_eq, other.selections_seen]
    exact ⟨selections_eq, by rw [run.selection_eq, other.selection_eq, selections_eq]⟩

/-- Two runs in which the detail container has the same share: a span's failures are asked for and
shown. In the first one the overview is refreshed in the meantime, which fails; in the second one
the overview never gets its reply, and somebody asks for a view that there is not. -/
def beside : Run × Run :=
  (⟨{}, [.start (.activate .errorCount "a"), .start (.refresh 5), .answer 1 (.error (.fetch "")),
      .answer 0 (.ok "[]")]⟩,
    ⟨{}, [.start (.refresh 7), .start (.activate .errorCount "a"),
      .start (.renderNamed "none" none), .answer 1 (.ok "[]")]⟩)

theorem beside_undisturbed :
    beside.1.settings = beside.2.settings ∧ beside.1.share .detail = beside.2.share .detail ∧
      beside.1.seen .detail = beside.2.seen .detail ∧
      beside.1.outcomes 0 = beside.2.outcomes 1 ∧
      beside.1.selections.map Prod.snd = beside.2.selections.map Prod.snd := by
  have shared : beside.1.share .detail = beside.2.share .detail := by rfl
  obtain ⟨outcomes, -, seen, selections⟩ := undisturbed beside.1 beside.2 .detail rfl shared
  obtain ⟨ticket, found, same⟩ := outcomes 0 0 rfl
  have only_one : place? .detail beside.2.calls 1 = some 0 := rfl
  obtain rfl : ticket = 1 := place?_injective only_one found
  exact ⟨rfl, shared, seen, same, (selections rfl).1⟩

end Run

end SpanDashboard
