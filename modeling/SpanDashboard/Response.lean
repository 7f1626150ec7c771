import SpanDashboard.Failure
import SpanDashboard.Json.Reader
import SpanDashboard.Record.Decode
import SpanDashboard.Table.Row

/-!
# Responses

The body of a response is a JSON array of records, of aggregates for the overview and of sampled
spans for the detail views. `decode_table` reads it as a whole, so one item that is no record spoils
all of it.

A response with an error status is reported in words (`http_error_message`), with the explanation
that its body gives.
-/

set_option autoImplicit false

namespace SpanDashboard

/-- Reads a record of the type that a view shows, which `fetch_table` chooses. -/
def View.readRow (view : View) (value : Json) : Except Problem Row :=
  match view with
  | .overview => (SpanAggregate.decode value).map SpanAggregate.toRow
  | .error | .running | .latency => (SpanDetail.decode value).map SpanDetail.toRow

namespace Response

/-- Reads the rows of a response: `decode_table`, without rendering them. -/
def rows (view : View) (body : String) : Except ResponseFault (List Row) :=
  match Json.parse? body with
  | none => .error (.notJson body)
  | some (.array items) => (items.mapM view.readRow).mapError .badRecord
  | some _ => .error .notArray

/-- The `detail` of `http_error_message`, which explains an error: the member `error` of an object,
or else its member `message`, if that is a text; for all other bodies the body itself without the
blanks at its ends. -/
def explanation (body : String) : String :=
  let given := do
    let value ← Json.parse? body
    (value.member? "error").or (value.member? "message")
  match given with
  | some (.string s) => s
  | _ => Text.trim body

/-- The report on a response with an error status: `http_error_message`. -/
def statusReport (url : String) (status : Nat) (body : String) : String :=
  let report := "GET " ++ url ++ " returned HTTP " ++ Numeral.text status
  let detail := explanation body
  if detail.isEmpty then report else report ++ " (" ++ detail ++ ")"

end Response

end SpanDashboard
