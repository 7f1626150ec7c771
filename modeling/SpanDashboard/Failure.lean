import SpanDashboard.Record.Problem
import SpanDashboard.View.Spec

/-!
# Failures

What can go wrong between asking for a table and seeing it, a `TracezError`, with the words for each
case. An empty list of records is no failure. The words that the JSON reader has for a text that it
refuses are not modelled: they are a parameter, a function of the text.
-/

set_option autoImplicit false

namespace SpanDashboard

/-- What is wrong with a view or with a request for one: the occasions for an `InvalidConfig`, which
`from_attributes`, `validate` and the reader of column identifiers find. -/
inductive SetupFault where
  | unknownColumn (id : String)
  /-- A latency cell was clicked that says nothing of a bucket. -/
  | bucketMissing
  | badBucket (text : String)
  /-- A cell was clicked whose column opens no detail view. -/
  | notClickable (column : Column)
  | noColumns (view : View)
  | clickableNotShown (view : View) (column : Column)
  | noDetailView (view : View) (column : Column)
  | widthsDiffer (view : View) (layout header row : Nat)
  /-- A fault that was reported in words. -/
  | reported (text : String)
  deriving DecidableEq, Repr

/-- The words for a fault. -/
def SetupFault.message : SetupFault → String
  | unknownColumn id => "unknown column: " ++ id
  | bucketMissing => "latency cell without a bucket"
  | badBucket text => "bad bucket: " ++ text
  | notClickable column => "column " ++ column.id ++ " is not navigable"
  | noColumns view => view.name ++ ": no headings"
  | clickableNotShown view column =>
    view.name ++ ": navigable column " ++ column.id ++ " is not a heading"
  | noDetailView view column => view.name ++ ": column " ++ column.id ++ " has no detail view"
  | widthsDiffer view layout header row =>
    view.name ++ ": " ++ Numeral.text layout ++ " layout columns, " ++ Numeral.text header ++
      " headers, " ++ Numeral.text row ++ " row cells"
  | reported text => text

/-- What is wrong with the body of a response: the occasions for a `MalformedResponse`, most of
which `decode_table` finds. -/
inductive ResponseFault where
  /-- The body, which is given here, is not read as JSON. -/
  | notJson (body : String)
  | notArray
  /-- The first item that is no record is none for this reason. -/
  | badRecord (problem : Problem)
  /-- A fault that was reported in words. -/
  | reported (text : String)

/-- The words for a fault, where `report` is what the JSON reader says of a text that it refuses. -/
def ResponseFault.message (report : String → String) : ResponseFault → String
  | notJson body => "invalid JSON: " ++ report body
  | notArray => "expected a JSON array"
  | badRecord problem => "invalid record: " ++ problem.message
  | reported text => text

/-- Everything that can go wrong, a `TracezError`. -/
inductive Failure where
  /-- `UnknownView`. -/
  | unknownView (name : String)
  /-- `InvalidBucket`: there is no latency bucket at this position. -/
  | bucketOutOfRange (index : Nat)
  /-- `FetchFailure`. -/
  | fetch (text : String)
  /-- `MalformedResponse`. -/
  | response (fault : ResponseFault)
  /-- `InvalidConfig`. -/
  | setup (fault : SetupFault)
  /-- `Dom`: the page refused an operation. -/
  | page (text : String)

namespace Failure

/-- The words for a failure, where `report` is what the JSON reader says of a text that it
refuses. -/
def message (report : String → String) : Failure → String
  | unknownView name => "unknown view: " ++ name
  | bucketOutOfRange index => "latency bucket index out of range: " ++ Numeral.text index
  | fetch text => "fetch failed: " ++ text
  | response fault => "malformed response: " ++ fault.message report
  | setup fault => "invalid view configuration: " ++ fault.message
  | page text => "DOM error: " ++ text

theorem message_unknownView (report : String → String) (name : String) :
    (unknownView name).message report = "unknown view: " ++ name := rfl

theorem message_notJson (report : String → String) (body : String) :
    (response (.notJson body)).message report =
      "malformed response: " ++ ("invalid JSON: " ++ report body) := rfl

/-- `is_recoverable`: whether asking again may help, because the fault lies with the source of the
records. -/
def isRecoverable : Failure → Bool
  | fetch _ | response _ => true
  | unknownView _ | bucketOutOfRange _ | setup _ | page _ => false

end Failure

end SpanDashboard
