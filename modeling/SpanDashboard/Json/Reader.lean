import SpanDashboard.Json.Token

/-!
# Reading JSON text

What `from_str` reads as a `Value`. A value is built from tokens one at a time. `Place` says where
in the document a value stands, from the inside out, and `Build` what must come next there. A
document is read into the tree as it is written, and then brought to its canonical form, so that the
order of members and the white space of the text leave no trace. Why a text is refused is not said.
-/

set_option autoImplicit false

namespace SpanDashboard.Json

/-- Where a value stands: on its own, or in an array or object of which the part before it is
known, last first. -/
inductive Place where
  | top
  | item (before : List Json) (outer : Place)
  | member (before : List (String × Json)) (key : String) (outer : Place)

/-- How many containers a place is inside of. -/
def Place.depth : Place → Nat
  | .top => 0
  | .item _ outer => outer.depth + 1
  | .member _ _ outer => outer.depth + 1

/-- How many containers may be inside one another. -/
def maxNesting : Nat :=
  127

/-- What has been read and what must come next. -/
inductive Build where
  /-- A value. -/
  | value (place : Place)
  /-- A first item, or the end of the array. -/
  | firstItem (outer : Place)
  /-- A first key, or the end of the object. -/
  | firstKey (outer : Place)
  /-- A further key. -/
  | nextKey (before : List (String × Json)) (outer : Place)
  /-- The colon after a key. -/
  | colon (before : List (String × Json)) (key : String) (outer : Place)
  /-- Whatever may follow a complete value. -/
  | complete (value : Json) (place : Place)

namespace Build

/-- Takes in the first token of a value. -/
def begin? (place : Place) : Token → Option Build
  | .scalar v => some (.complete v place)
  | .string s => some (.complete (.string s) place)
  | .arrayOpen => if place.depth < maxNesting then some (.firstItem place) else none
  | .objectOpen => if place.depth < maxNesting then some (.firstKey place) else none
  | _ => none

/-- Takes in one token. -/
def step? : Build → Token → Option Build
  | value place, token => begin? place token
  | firstItem outer, .arrayClose => some (complete (.array []) outer)
  | firstItem outer, token => begin? (.item [] outer) token
  | firstKey outer, .objectClose => some (complete (.object []) outer)
  | firstKey outer, .string key => some (colon [] key outer)
  | nextKey before outer, .string key => some (colon before key outer)
  | colon before key outer, .colon => some (value (.member before key outer))
  | complete v (.item before outer), .comma => some (value (.item (v :: before) outer))
  | complete v (.item before outer), .arrayClose =>
    some (complete (.array (v :: before).reverse) outer)
  | complete v (.member before key outer), .comma => some (nextKey ((key, v) :: before) outer)
  | complete v (.member before key outer), .objectClose =>
    some (complete (.object ((key, v) :: before).reverse) outer)
  | _, _ => none

/-- The value, once nothing more is missing. -/
def finish? : Build → Option Json
  | complete v .top => some v
  | _ => none

end Build

/-- The value that the tokens spell, with its members as they are written. -/
def ofTokens? (tokens : List Token) : Option Json :=
  (tokens.foldlM Build.step? (.value .top)).bind Build.finish?

/-- The value that a text spells, with its members as they are written. -/
def tree? (text : String) : Option Json :=
  (tokens? text).bind ofTokens?

/-- Reads a text: `from_str`. -/
def parse? (text : String) : Option Json :=
  (tree? text).map canonical

end SpanDashboard.Json
