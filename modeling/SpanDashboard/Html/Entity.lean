import SpanDashboard.Text.Blank
import SpanDashboard.Text.Replace

/-!
# Escaped text

Text that stands in HTML, as content or between the quotes of an attribute. `html_escape` writes
five characters as entities, by one replacement for each of them over the whole text; the ampersand
comes first, so that no entity is escaped again. `unescape` reads the entities back in one pass.
-/

set_option autoImplicit false

namespace SpanDashboard.Entity

/-- The escaped characters and their entities, in the order in which they are replaced. -/
def table : List (Char × List Char) :=
  [('&', ['&', 'a', 'm', 'p', ';']),
    ('<', ['&', 'l', 't', ';']),
    ('>', ['&', 'g', 't', ';']),
    ('"', ['&', 'q', 'u', 'o', 't', ';']),
    ('\'', ['&', '#', 'x', '2', '7', ';'])]

/-- Escapes the characters of a text, one entity after the other. -/
def escapeChars (text : List Char) : List Char :=
  table.foldl (fun text entry => Text.replaceChar entry.1 entry.2 text) text

/-- The text with its special characters written as entities: `html_escape`. -/
def escape (s : String) : String :=
  String.ofList (escapeChars s.toList)

theorem escapeChars_append (s t : List Char) :
    escapeChars (s ++ t) = escapeChars s ++ escapeChars t := by
  simp [escapeChars, table, Text.replaceChar_append]

/-- The entity that a text begins with, if it begins with one. -/
def leading? (text : List Char) : Option (Char × List Char) :=
  table.find? fun entry => entry.2.isPrefixOf text

/-- Reads entities after skipping the first `skip` characters, which belong to an entity that has
been read already. -/
def unescapeFrom : Nat → List Char → List Char
  | _, [] => []
  | skip + 1, _ :: rest => unescapeFrom skip rest
  | 0, c :: rest =>
    match leading? (c :: rest) with
    | some (d, name) => d :: unescapeFrom (name.length - 1) rest
    | none => c :: unescapeFrom 0 rest

/-- The text with its entities read back. -/
def unescape (s : String) : String :=
  String.ofList (unescapeFrom 0 s.toList)

end SpanDashboard.Entity
