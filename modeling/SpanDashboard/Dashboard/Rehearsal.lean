import SpanDashboard.Dashboard.Session

/-!
# Rehearsals

A session with the `FakeSource` of the engine's tests, whose replies are prepared. The reply of a
URL comes at once, unless a gate has been put up for it: then the next request for the URL waits
until the gate is opened. A gate may be opened before anybody waits at it. A URL without a prepared
reply does not exist.
-/

set_option autoImplicit false

namespace SpanDashboard

/-- A gate that nobody has waited at yet. -/
structure Gate where
  id : String
  /-- The reply, if the gate has been opened already. -/
  reply : Option Reply

/-- A session with its prepared source. -/
structure Rehearsal where
  session : Session
  /-- The replies that come at once, newest first. -/
  prepared : List (String × Reply)
  /-- The gates of URLs for which no request has come since. -/
  gates : List (String × Gate)
  /-- The gates at which a call waits, and its ticket. -/
  held : List (String × Nat)

namespace Rehearsal

/-- A rehearsal in which nothing is prepared. -/
def initial (settings : Settings) : Rehearsal :=
  ⟨.initial settings, [], [], []⟩

/-- Prepares the reply of a URL: `respond_raw`. -/
def prepare (r : Rehearsal) (url : String) (reply : Reply) : Rehearsal :=
  { r with prepared := (url, reply) :: r.prepared }

/-- Puts up a gate for a URL, in place of one that nobody has waited at: `gate`. -/
def putGate (r : Rehearsal) (url id : String) : Rehearsal :=
  { r with gates := (url, ⟨id, none⟩) :: r.gates.filter (·.1 ≠ url) }

/-- The reply of a URL for which nothing is prepared. -/
def notFound (url : String) : Reply :=
  .error (.fetch ("HTTP error: 404 " ++ url))

/-- Gives a reply to a call. -/
def reply (r : Rehearsal) (ticket : Nat) (reply : Reply) : Rehearsal × List Effect :=
  let (session, effects) := r.session.answer ticket reply
  ({ r with session }, effects)

/-- Serves the request of a call: `fetch` of the `FakeSource`. -/
def serve (r : Rehearsal) (ticket : Nat) (url : String) : Rehearsal × List Effect :=
  match r.gates.lookup url with
  | some gate =>
    let passed := { r with gates := r.gates.filter (·.1 ≠ url) }
    match gate.reply with
    | some given => passed.reply ticket given
    | none => ({ passed with held := (gate.id, ticket) :: r.held }, [])
  | none => r.reply ticket ((r.prepared.lookup url).getD (notFound url))

/-- Serves the requests among some effects. -/
def serveAll (r : Rehearsal) : List Effect → Rehearsal × List Effect
  | [] => (r, [])
  | .fetch ticket url :: rest =>
    let (next, effects) := r.serve ticket url
    let (last, more) := next.serveAll rest
    (last, effects ++ more)
  | _ :: rest => r.serveAll rest

/-- Starts a call and serves its request. -/
def call (r : Rehearsal) (c : Call) : Rehearsal × List Effect :=
  let (session, effects) := r.session.start c
  let (served, more) := { r with session }.serveAll effects
  (served, effects ++ more)

/-- Keeps the reply for a gate that nobody has waited at; a gate is opened only once. -/
def openEarly (id : String) (reply : Reply) (entry : String × Gate) : String × Gate :=
  if entry.2.id = id then (entry.1, { entry.2 with reply := entry.2.reply.or (some reply) })
  else entry

/-- Opens a gate. A gate that has been replaced is not there any more. -/
def openGate (r : Rehearsal) (id : String) (reply : Reply) : Rehearsal × List Effect :=
  match r.held.lookup id with
  | some ticket => { r with held := r.held.filter (·.1 ≠ id) }.reply ticket reply
  | none => ({ r with gates := r.gates.map (openEarly id reply) }, [])

end Rehearsal

end SpanDashboard
