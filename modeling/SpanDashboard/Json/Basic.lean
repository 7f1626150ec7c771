import SpanDashboard.Number.Double

/-!
# JSON values

Values of a JSON document. A number is a whole number or a double, two different values even where
they are equal in size. The members of an object are kept in a list, while a `Map` has its entries
in the order of their keys; `Json.canonical` sorts them by key and keeps the last of those with
equal keys, at every depth.
-/

set_option autoImplicit false

namespace SpanDashboard

/-- A JSON value: a `Value`. -/
inductive Json where
  | null
  | bool (b : Bool)
  | int (n : Int)
  | double (x : Double)
  | string (s : String)
  | array (items : List Json)
  | object (members : List (String × Json))

namespace Json

/-- Puts a member into a list that is sorted by key, in place of one with the same key. -/
def insertMember (key : String) (value : Json) : List (String × Json) → List (String × Json)
  | [] => [(key, value)]
  | (k, v) :: rest =>
    if key < k then (key, value) :: (k, v) :: rest
    else if key = k then (key, value) :: rest
    else (k, v) :: insertMember key value rest

/-- The members sorted by key; of those with equal keys the last one stays. -/
def sortMembers (members : List (String × Json)) : List (String × Json) :=
  members.foldl (fun sorted m => insertMember m.1 m.2 sorted) []

mutual
/-- The value with the members of all objects sorted. -/
def canonical : Json → Json
  | .array items => .array (canonicalItems items)
  | .object members => .object (sortMembers (canonicalMembers members))
  | value => value
termination_by structural value => value
/-- The values of a list, each with sorted members. -/
def canonicalItems : List Json → List Json
  | [] => []
  | value :: rest => value.canonical :: canonicalItems rest
termination_by structural values => values
/-- The members of an object in their order, each value with sorted members. -/
def canonicalMembers : List (String × Json) → List (String × Json)
  | [] => []
  | (key, value) :: rest => (key, value.canonical) :: canonicalMembers rest
termination_by structural members => members
end

/-- The value of the member with the given key, which `get` finds; values other than objects have no
members. -/
def member? (key : String) : Json → Option Json
  | .object members => members.lookup key
  | _ => none

end Json

end SpanDashboard
