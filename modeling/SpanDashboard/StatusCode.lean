import SpanDashboard.Text.Blank

/-!
# Status codes

The seventeen codes with which a span can end. `fold_status_name` lets them be read without regard
to case, underscores and blanks, so that `NOT_FOUND` and `NotFound` are one name; `CANCELED` is a
second spelling of `CANCELLED`.
-/

set_option autoImplicit false

namespace SpanDashboard

/-- The code with which a span ended: a `StatusCode`. -/
inductive StatusCode where
  | ok | cancelled | unknown | invalidArgument | deadlineExceeded | notFound | alreadyExists
  | permissionDenied | resourceExhausted | failedPrecondition | aborted | outOfRange
  | unimplemented | internal | unavailable | dataLoss | unauthenticated
  deriving DecidableEq, Repr

namespace StatusCode

/-- All codes, in the order of their numbers. -/
def all : List StatusCode :=
  [ok, cancelled, unknown, invalidArgument, deadlineExceeded, notFound, alreadyExists,
    permissionDenied, resourceExhausted, failedPrecondition, aborted, outOfRange, unimplemented,
    internal, unavailable, dataLoss, unauthenticated]

/-- The canonical name of a code: `as_str`. -/
def name : StatusCode → String
  | ok => "OK"
  | cancelled => "CANCELLED"
  | unknown => "UNKNOWN"
  | invalidArgument => "INVALID_ARGUMENT"
  | deadlineExceeded => "DEADLINE_EXCEEDED"
  | notFound => "NOT_FOUND"
  | alreadyExists => "ALREADY_EXISTS"
  | permissionDenied => "PERMISSION_DENIED"
  | resourceExhausted => "RESOURCE_EXHAUSTED"
  | failedPrecondition => "FAILED_PRECONDITION"
  | aborted => "ABORTED"
  | outOfRange => "OUT_OF_RANGE"
  | unimplemented => "UNIMPLEMENTED"
  | internal => "INTERNAL"
  | unavailable => "UNAVAILABLE"
  | dataLoss => "DATA_LOSS"
  | unauthenticated => "UNAUTHENTICATED"

/-- What counts of a name, `fold_status_name`: its characters without underscores and blanks, ASCII
letters as capitals. -/
def fold (s : String) : List Char :=
  (s.toList.filter fun c => c != '_' && !Text.isBlank c).map Char.toUpper

/-- Reads a name in any of its spellings: `from_str`, of which the error is `unknownMessage`. -/
def ofName? (s : String) : Option StatusCode :=
  if fold s = "CANCELED".toList then some cancelled
  else all.find? fun code => fold code.name = fold s

/-- What is said about a text that names no code. -/
def unknownMessage (s : String) : String :=
  "unknown status code: " ++ s

theorem mem_all (code : StatusCode) : code ∈ all := by
  cases code <;> decide

theorem ofName?_name (code : StatusCode) : ofName? code.name = some code := by
  cases code <;> decide +kernel

end StatusCode

end SpanDashboard
