import SpanDashboard.Time.Timestamp

/-!
# Settings

Where the records come from and how they are shown (`TracezConfig`), and what is said of a text that
is no JSON.
-/

set_option autoImplicit false

namespace SpanDashboard

/-- The settings of a dashboard: a `TracezConfig`, and the words of the JSON reader. -/
structure Settings where
  /-- The origin of the server; empty if it is the one that served the page. -/
  serverOrigin : String := ""
  /-- The path that all endpoint paths are appended to. -/
  basePath : String := "/tracez/get/"
  /-- The zone in which times are shown. -/
  zone : Zone := .utc
  /-- How many spans the server samples, as subheadings say. -/
  sampleLimit : Nat := 5
  /-- What the JSON reader says of a text that it refuses. Its words are not modelled, so they may
  be any here; where none are given, a placeholder stands for them. -/
  syntaxReport : String → String := fun _ => "<syntax>"

namespace Settings

/-- The URL of an endpoint path: `endpoint_url`. -/
def url (s : Settings) (path : String) : String :=
  s.serverOrigin ++ s.basePath ++ path

/-- `DEV_SERVER_PORT`: where a server on the viewer's own machine listens. -/
def localPortNumber : String :=
  "30000"

/-- `get_api_base`, the origin of the server for a page at the given address: a page on the viewer's
own machine that does not come from the server asks the server there, all others the server that
they come from. -/
def serverOriginFor (hostname portNumber : String) : String :=
  if (hostname = "localhost" ∨ hostname = "127.0.0.1") ∧ portNumber ≠ localPortNumber then
    "http://" ++ hostname ++ ":" ++ localPortNumber
  else ""

end Settings

end SpanDashboard
