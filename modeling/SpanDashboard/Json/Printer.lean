import SpanDashboard.Json.Number
import SpanDashboard.Text.Hex

/-!
# Printing JSON values

One printer with two layouts: `compact` puts no space between tokens, `pretty` puts each item and
each member on a line of its own, two spaces further in than its container. Strings escape what
JSON requires them to and nothing else.
-/

set_option autoImplicit false

namespace SpanDashboard.Json

/-- The space that a printed value has between its tokens. -/
structure Layout where
  /-- What separates the items of a container that is this deep from what is before them. -/
  line : Nat → List Char
  /-- What separates a colon from the value after it. -/
  gap : List Char

/-- No space at all. -/
def Layout.compact : Layout :=
  ⟨fun _ => [], []⟩

/-- A line for each item, two spaces further in for each container, and a space after a colon. -/
def Layout.pretty : Layout :=
  ⟨fun depth => '\n' :: List.replicate (2 * depth) ' ', [' ']⟩

/-- One character of a printed string. -/
def printedChar (c : Char) : List Char :=
  match c with
  | '"' => ['\\', '"']
  | '\\' => ['\\', '\\']
  | '\x08' => ['\\', 'b']
  | '\x0c' => ['\\', 'f']
  | '\n' => ['\\', 'n']
  | '\r' => ['\\', 'r']
  | '\t' => ['\\', 't']
  | _ =>
    if c.toNat < 0x20 then
      ['\\', 'u', '0', '0', Hex.lower (c.toNat / 16), Hex.lower (c.toNat % 16)]
    else [c]

/-- A printed string. -/
def printedString (s : String) : List Char :=
  '"' :: s.toList.flatMap printedChar ++ ['"']

mutual
/-- The characters of a value inside the given number of containers. -/
def chars (layout : Layout) (depth : Nat) : Json → List Char
  | .null => ['n', 'u', 'l', 'l']
  | .bool true => ['t', 'r', 'u', 'e']
  | .bool false => ['f', 'a', 'l', 's', 'e']
  | .int n => Numeral.ofInt n
  | .double x => doubleText x
  | .string s => printedString s
  | .array [] => ['[', ']']
  | .array (first :: rest) =>
    '[' :: layout.line (depth + 1) ++ chars layout (depth + 1) first ++
      itemChars layout (depth + 1) rest ++ layout.line depth ++ [']']
  | .object [] => ['\x7b', '\x7d']
  | .object ((key, value) :: rest) =>
    '\x7b' :: layout.line (depth + 1) ++ printedString key ++ ':' :: layout.gap ++
      chars layout (depth + 1) value ++ memberChars layout (depth + 1) rest ++
      layout.line depth ++ ['\x7d']
termination_by structural value => value
/-- The characters of the items after the first one. -/
def itemChars (layout : Layout) (depth : Nat) : List Json → List Char
  | [] => []
  | value :: rest =>
    ',' :: layout.line depth ++ chars layout depth value ++ itemChars layout depth rest
termination_by structural values => values
/-- The characters of the members after the first one. -/
def memberChars (layout : Layout) (depth : Nat) : List (String × Json) → List Char
  | [] => []
  | (key, value) :: rest =>
    ',' :: layout.line depth ++ printedString key ++ ':' :: layout.gap ++
      chars layout depth value ++ memberChars layout depth rest
termination_by structural members => members
end

/-- The text of a value without space: `to_string`. -/
def compact (value : Json) : String :=
  String.ofList (chars .compact 0 value)

/-- The text of a value with a line for each item: `to_string_pretty`. -/
def pretty (value : Json) : String :=
  String.ofList (chars .pretty 0 value)

end SpanDashboard.Json
