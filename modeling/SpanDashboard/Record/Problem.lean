import SpanDashboard.Json.Number
import SpanDashboard.StatusCode
import SpanDashboard.Text.Quoted

/-!
# What is wrong with a record

The ways in which a JSON value can fail to be a record, and how the error of `from_value` describes
each.
-/

set_option autoImplicit false

namespace SpanDashboard

/-- What a place in a record asks for. -/
inductive Expected where
  | text
  | count
  | nanoseconds
  | latencyCounts
  | attributes
  | sequence
  /-- A whole record, named by its label. -/
  | record (label : String)
  deriving DecidableEq, Repr

/-- The words for what is expected. -/
def Expected.words : Expected → String
  | text => "a string"
  | count => "u64"
  | nanoseconds => "i64"
  | latencyCounts => "an array of length 9"
  | attributes => "a map"
  | sequence => "a sequence"
  | record label => "struct " ++ label

/-- A reason for which a value is not the record it should be. -/
inductive Problem where
  /-- A value of another kind stands where something is expected. -/
  | wrongKind (found : Json) (expected : Expected)
  /-- A whole number does not fit in its field. -/
  | outOfRange (n : Int) (expected : Expected)
  /-- A record written as an array lacks fields that it needs. -/
  | fewFields (found needed : Nat) (label : String)
  /-- There are fewer counts than buckets. -/
  | fewCounts (found : Nat)
  /-- An array has more items than can be used. -/
  | extraItems (found : Nat)
  | missingField (name : String)
  | duplicateField (name : String)
  | unknownStatus (name : String)

/-- The words for a value that was found. -/
def Json.description : Json → String
  | null => "null"
  | bool true => "boolean `true`"
  | bool false => "boolean `false`"
  | int n => "integer `" ++ Numeral.intText n ++ "`"
  | double x => "floating point `" ++ String.ofList (doubleText x) ++ "`"
  | string s => "string " ++ Text.quoted s
  | array _ => "sequence"
  | object _ => "map"

/-- The description of a problem. -/
def Problem.message : Problem → String
  | wrongKind found expected =>
    "invalid type: " ++ found.description ++ ", expected " ++ expected.words
  | outOfRange n expected =>
    "invalid value: integer `" ++ Numeral.intText n ++ "`, expected " ++ expected.words
  | fewFields found needed label =>
    "invalid length " ++ Numeral.text found ++ ", expected " ++ (Expected.record label).words ++
      " with " ++ Numeral.text needed ++ " elements"
  | fewCounts found =>
    "invalid length " ++ Numeral.text found ++ ", expected " ++ Expected.latencyCounts.words
  | extraItems found =>
    "invalid length " ++ Numeral.text found ++ ", expected fewer elements in array"
  | missingField name => "missing field `" ++ name ++ "`"
  | duplicateField name => "duplicate field `" ++ name ++ "`"
  | unknownStatus name => StatusCode.unknownMessage name

end SpanDashboard
