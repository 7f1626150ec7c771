import SpanDashboard.Table.Render

/-!
# Writes

What the dashboard does to the page, the calls of a `Surface`. The elements written to are named by
their identifiers.
-/

set_option autoImplicit false

namespace SpanDashboard

/-- A change of one page element. -/
inductive Write where
  /-- `replace_table`: the contents become a table. -/
  | putTable (id : String) (table : Table)
  /-- `append_rows`: rows are added at the end of the body of the table in the element. -/
  | addRows (id : String) (rows : String)
  /-- `set_html`: the contents become a piece of HTML. -/
  | putHtml (id : String) (html : String)
  deriving DecidableEq, Repr

/-- The element that is changed. -/
def Write.id : Write → String
  | putTable id _ | addRows id _ | putHtml id _ => id

end SpanDashboard
