import SpanDashboard.Html.Basic
import SpanDashboard.Json.Bounded
import SpanDashboard.Json.Ordered

/-!
# Shown values

How texts and structured values appear in a cell: a text as itself, or a marker if it is blank
(`text_or_not_set`); a structured value as a block of preformatted code (`code_block`). The markers
are elements, so no text can look like one.
-/

set_option autoImplicit false

namespace SpanDashboard.Html

/-- A remark in place of a value. -/
def marker (remark : String) : Html :=
  node .span [(.style, "empty")] (ofText remark)

/-- `NOT_SET`: stands for a value that is absent or blank. -/
def notSet : Html :=
  marker "(not set)"

/-- `EMPTY`: stands for a collection without elements. -/
def nothing : Html :=
  marker "Empty"

/-- `text_or_not_set`: a text, or the marker if nothing is left of it without the blanks at its
ends. -/
def shownText (s : String) : Html :=
  if (Text.trim s).isEmpty then notSet else ofText s

/-- A structured value as a block of code: `code_block`. -/
def codeBlock (value : Json.Ordered) : Html :=
  node .pre [] (node .code [] (ofText value.json.shown))

end SpanDashboard.Html
