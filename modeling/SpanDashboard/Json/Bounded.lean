import SpanDashboard.Json.Printer

/-!
# Values cut off at a depth

What `pretty_json` shows of a structured value: containers that are inside too many others are
replaced by an ellipsis, unless they are empty.
-/

set_option autoImplicit false

namespace SpanDashboard.Json

/-- `MAX_JSON_DEPTH`: how many containers must be around one to hide its contents. -/
def maxShownDepth : Nat :=
  8

/-- `ELIDED`: what stands for the contents that are not shown. -/
def ellipsis : Json :=
  .string "…"

mutual
/-- `bound_depth`: the value inside the given number of containers, cut off at the depth that is
shown. -/
def bounded (depth : Nat) : Json → Json
  | .array [] => .array []
  | .object [] => .object []
  | .array items =>
    if maxShownDepth ≤ depth then ellipsis else .array (boundedItems (depth + 1) items)
  | .object members =>
    if maxShownDepth ≤ depth then ellipsis else .object (boundedMembers (depth + 1) members)
  | scalar => scalar
termination_by structural value => value
/-- The items of an array, each cut off. -/
def boundedItems (depth : Nat) : List Json → List Json
  | [] => []
  | value :: rest => bounded depth value :: boundedItems depth rest
termination_by structural values => values
/-- The members of an object, each value cut off. -/
def boundedMembers (depth : Nat) : List (String × Json) → List (String × Json)
  | [] => []
  | (key, value) :: rest => (key, bounded depth value) :: boundedMembers depth rest
termination_by structural members => members
end

/-- The text that shows a structured value: `pretty_json`. -/
def shown (value : Json) : String :=
  pretty (bounded 0 value)

end SpanDashboard.Json
