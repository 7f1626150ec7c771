import SpanDashboard.Proofs.Bookkeeping

/-!
# The share of a container

A container's share of a run are the calls for it, in the order in which they begin, and the first
reply to each of them. Tickets are given out to all calls of a run, so in the share a call goes by
its place among the calls for the container; and a refresh goes without its time, which only the
stamp shows. The share is read off the events alone. On the other side, what is seen of a container
are the requests and the outcomes of the calls for it, and the writes to its table and to the
subheading above it.
-/

set_option autoImplicit false

namespace SpanDashboard

namespace Call

/-- The call without the time that a refresh stamps on the page. -/
def untimed : Call → Call
  | .refresh _ => .refresh 0
  | .render view key => .render view key
  | .renderNamed name key => .renderNamed name key
  | .append view key => .append view key
  | .activate cell rowKey => .activate cell rowKey

/-- Whether a call is for a container. -/
def isFor (c : Container) (call : Call) : Bool :=
  call.container? = some c

@[simp] theorem target?_untimed (call : Call) : call.untimed.target? = call.target? := by
  cases call <;> rfl

@[simp] theorem container?_untimed (call : Call) : call.untimed.container? = call.container? := by
  rw [container?, target?_untimed]
  rfl

@[simp] theorem purpose_untimed (call : Call) : call.untimed.purpose = call.purpose := by
  cases call <;> rfl

@[simp] theorem isFor_untimed (c : Container) (call : Call) :
    call.untimed.isFor c = call.isFor c := by
  simp [isFor]

@[simp] theorem replaces_untimed (c : Container) (call : Call) :
    call.untimed.replaces c = call.replaces c := by
  simp [replaces]

@[simp] theorem selection?_untimed (call : Call) (outcome : Outcome) :
    call.untimed.selection? outcome = call.selection? outcome := by
  cases call <;> rfl

theorem request?_untimed (settings : Settings) (generation : Container → Nat) (call : Call) :
    call.untimed.request? settings generation = call.request? settings generation := by
  simp [request?]

/-- A request depends on the count of its own container alone. -/
theorem request?_congr {settings : Settings} {generation other : Container → Nat} {call : Call}
    {c : Container} (target : call.container? = some c) (same : generation c = other c) :
    call.request? settings generation = call.request? settings other := by
  obtain ⟨⟨view, key⟩, found, rfl⟩ := Option.map_eq_some_iff.1 target
  rw [request?, request?, found, Option.map_some, Option.map_some, same]

end Call

/-- The place of a ticket among the calls for a container, if its call is one of them. -/
def place? (c : Container) (calls : List Call) (ticket : Nat) : Option Nat :=
  if (calls[ticket]?.any (Call.isFor c)) then some ((calls.take ticket).countP (Call.isFor c))
  else none

section Place

variable {c : Container} {calls : List Call} {ticket place : Nat}

theorem place?_eq_some_iff :
    place? c calls ticket = some place ↔
      ∃ call, calls[ticket]? = some call ∧ call.isFor c = true ∧
        (calls.take ticket).countP (Call.isFor c) = place := by
  unfold place?
  cases calls[ticket]? with
  | none => simp
  | some call => simp

theorem lt_of_place? (found : place? c calls ticket = some place) : ticket < calls.length := by
  obtain ⟨call, begun, -⟩ := place?_eq_some_iff.1 found
  exact (List.getElem?_eq_some_iff.1 begun).1

/-- A call keeps its place. -/
theorem place?_append (known : ticket < calls.length) (later : List Call) :
    place? c (calls ++ later) ticket = place? c calls ticket := by
  unfold place?
  rw [List.getElem?_append_left known, List.take_append_of_le_length (by omega)]

theorem place?_append_of_eq_some (found : place? c calls ticket = some place) (later : List Call) :
    place? c (calls ++ later) ticket = some place := by
  rw [place?_append (lt_of_place? found), found]

theorem place?_last (call : Call) :
    place? c (calls ++ [call]) calls.length =
      if call.isFor c then some (calls.countP (Call.isFor c)) else none := by
  simp [place?]

/-- The place of a call is smaller than the number of calls up to any later one. -/
theorem place_lt_countP (found : place? c calls ticket = some place) {later : Nat}
    (after : ticket < later) : place < (calls.take later).countP (Call.isFor c) := by
  obtain ⟨call, begun, belongs, rfl⟩ := place?_eq_some_iff.1 found
  have upTo : (calls.take (ticket + 1)).countP (Call.isFor c) =
      (calls.take ticket).countP (Call.isFor c) + 1 := by
    rw [List.take_add_one, begun, Option.toList_some, List.countP_append,
      List.countP_singleton, if_pos belongs]
  have monotone : (calls.take (ticket + 1)).countP (Call.isFor c) ≤
      (calls.take later).countP (Call.isFor c) :=
    (List.take_sublist_take_left (by omega)).countP_le
  omega

theorem place_lt (found : place? c calls ticket = some place) :
    place < calls.countP (Call.isFor c) := by
  have bound := place_lt_countP found (lt_of_place? found)
  rwa [List.take_length] at bound

/-- Two calls have different places. -/
theorem place?_injective {other : Nat} (found : place? c calls ticket = some place)
    (found' : place? c calls other = some place) : other = ticket := by
  have before := @place_lt_countP c calls ticket place found other
  have after := @place_lt_countP c calls other place found' ticket
  obtain ⟨_, -, -, counted⟩ := place?_eq_some_iff.1 found
  obtain ⟨_, -, -, counted'⟩ := place?_eq_some_iff.1 found'
  omega

/-- Every place is that of a call. -/
theorem exists_place (bound : place < calls.countP (Call.isFor c)) :
    ∃ ticket, place? c calls ticket = some place := by
  induction calls using List.reverseRecOn with
  | nil => cases bound
  | append_singleton before call ih =>
    by_cases known : place < before.countP (Call.isFor c)
    · obtain ⟨ticket, found⟩ := ih known
      exact ⟨ticket, place?_append_of_eq_some found [call]⟩
    · refine ⟨before.length, ?_⟩
      rw [List.countP_append, List.countP_singleton] at bound
      rw [place?_last]
      cases belongs : call.isFor c with
      | false =>
        simp only [belongs, Bool.false_eq_true, if_false] at bound
        omega
      | true =>
        simp only [belongs, if_true] at bound
        exact congrArg some (by omega)

/-- At its place among the calls for the container stands the call itself. -/
theorem getElem?_filter_place {call : Call} (found : place? c calls ticket = some place)
    (begun : calls[ticket]? = some call) : (calls.filter (Call.isFor c))[place]? = some call := by
  obtain ⟨_, begun', belongs, rfl⟩ := place?_eq_some_iff.1 found
  obtain rfl := Option.some.inj (begun.symm.trans begun')
  have split : calls.filter (Call.isFor c) =
      (calls.take ticket).filter (Call.isFor c) ++
        (call :: calls.drop (ticket + 1)).filter (Call.isFor c) := by
    rw [← List.filter_append, ← (List.getElem?_eq_some_iff.1 begun).2, List.getElem_cons_drop,
      List.take_append_drop]
  rw [split, List.countP_eq_length_filter, List.filter_cons_of_pos belongs,
    List.getElem?_append_right (Nat.le_refl _), Nat.sub_self]
  rfl

end Place

/-- The calls that have begun, and the tickets of those that have got no reply. -/
structure Roster where
  calls : List Call
  unanswered : List Nat

namespace Roster

/-- The roster after an event. -/
def after (roster : Roster) : Event → Roster
  | .start call => ⟨roster.calls ++ [call], roster.calls.length :: roster.unanswered⟩
  | .answer ticket _ => { roster with unanswered := roster.unanswered.filter (· ≠ ticket) }

/-- What an event is to a container, if it is anything. -/
def share? (c : Container) (roster : Roster) : Event → Option Event
  | .start call => if call.isFor c then some (.start call.untimed) else none
  | .answer ticket reply =>
    if ticket ∈ roster.unanswered then
      (place? c roster.calls ticket).map fun place => .answer place reply
    else none

/-- What some events are to a container. -/
def share (c : Container) (roster : Roster) : List Event → List Event
  | [] => []
  | e :: rest => (roster.share? c e).toList ++ (roster.after e).share c rest

theorem share_append (c : Container) (roster : Roster) (before later : List Event) :
    roster.share c (before ++ later) =
      roster.share c before ++ (before.foldl after roster).share c later := by
  induction before generalizing roster with
  | nil => rfl
  | cons e rest ih => simp [share, ih]

end Roster

namespace Run

/-- The calls of a run, and those of them that have got no reply. -/
def roster (run : Run) : Roster :=
  run.events.foldl Roster.after ⟨[], []⟩

/-- The share that a container has in a run. -/
def share (run : Run) (c : Container) : List Event :=
  Roster.share c ⟨[], []⟩ run.events

@[simp] theorem roster_extend_one (run : Run) (e : Event) :
    (run.extend [e]).roster = run.roster.after e := by
  simp [roster, extend]

theorem roster_calls (run : Run) : run.roster.calls = run.calls := by
  induction run using Run.induction with
  | start settings => rfl
  | step run e ih =>
    rw [roster_extend_one, calls_extend]
    cases e with
    | start call => simp [Roster.after, ih, Event.call?]
    | answer ticket reply => simp [Roster.after, ih, Event.call?]

theorem share_extend_one (run : Run) (c : Container) (e : Event) :
    (run.extend [e]).share c = run.share c ++ (run.roster.share? c e).toList := by
  unfold share extend
  rw [Roster.share_append]
  simp [Roster.share, roster]

/-- A call that has begun is unanswered exactly as long as it waits. -/
theorem mem_unanswered_iff (run : Run) {ticket place : Nat} {c : Container}
    (found : place? c run.calls ticket = some place) :
    ticket ∈ run.roster.unanswered ↔ run.session.waiting.lookup ticket ≠ none := by
  induction run using Run.induction with
  | start settings => simp [place?, calls] at found
  | step run e ih =>
    have turn := run.session.step_turn e
    rw [roster_extend_one, session_extend_one]
    cases e with
    | start call =>
      by_cases new : ticket = run.calls.length
      · subst new
        obtain ⟨_, begun, belongs, -⟩ := place?_eq_some_iff.1 found
        obtain rfl : call = _ := by simpa [Event.call?] using begun
        obtain ⟨r, -, waits, -⟩ := run.begun (of_decide_eq_true belongs)
        rw [session_extend_one] at waits
        simp [waits, Roster.after, roster_calls]
      · have known := lt_of_place? found
        rw [calls_extend, List.length_append] at known
        have older : ticket < run.calls.length := by
          simp [Event.call?] at known
          omega
        rw [calls_extend, place?_append older] at found
        rw [turn.lookup_other (by rw [run.remembers.started_eq]; exact older) rfl, ← ih found]
        simp [Roster.after, roster_calls, new]
    | answer other reply =>
      rw [calls_extend] at found
      simp only [Event.call?, List.filterMap_cons, List.filterMap_nil, List.append_nil] at found
      by_cases same : ticket = other
      · subst same
        rw [turn.lookup_answered]
        simp [Roster.after]
      · have known := lt_of_place? found
        have silent : (Event.answer other reply).reply? ticket = none := if_neg (Ne.symm same)
        rw [turn.lookup_other (by rw [run.remembers.started_eq]; exact known) silent, ← ih found]
        simp [Roster.after, same]

end Run

/-! ## What is seen -/

/-- Whether a write changes the table of a container or the subheading above it. -/
def Write.isWithin (c : Container) (w : Write) : Bool :=
  w.id = c.id || w.id = c.subheadingId

/-- What somebody sees who looks at one container. Calls go by their places. -/
inductive Sight where
  | write (w : Write)
  | fetch (place : Nat) (url : String)
  | completed (place : Nat) (outcome : Outcome)

namespace Sight

/-- The write that is seen. -/
def write? : Sight → Option Write
  | write w => some w
  | fetch _ _ | completed _ _ => none

/-- The outcome that is seen of the call with a place. -/
def outcome? (place : Nat) : Sight → Option Outcome
  | completed other outcome => if other = place then some outcome else none
  | write _ | fetch _ _ => none

/-- The selection that is seen to be made, among the calls for the container. -/
def selection? (calls : List Call) : Sight → Option Selection
  | completed place outcome => calls[place]?.bind fun call => call.selection? outcome
  | write _ | fetch _ _ => none

end Sight

/-- What is seen of an effect by somebody who looks at a container: the writes to it, and the
requests and outcomes of the calls for it. -/
def Effect.seen? (c : Container) (calls : List Call) : Effect → Option Sight
  | .write w => if w.isWithin c then some (.write w) else none
  | .fetch ticket url => (place? c calls ticket).map fun place => .fetch place url
  | .completed ticket outcome _ =>
    (place? c calls ticket).map fun place => .completed place outcome

/-- What is seen of a container in a run. -/
def Run.seen (run : Run) (c : Container) : List Sight :=
  (run.journal.flatMap Moment.effects).filterMap (Effect.seen? c run.calls)

end SpanDashboard
