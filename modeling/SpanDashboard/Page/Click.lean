import SpanDashboard.Selection

/-!
# Clicks

A click lands on an element somewhere inside the page. It counts if the element or one of the
elements around it is a cell that can be clicked; the nearest such cell tells what was clicked,
which `cell_click_from_event` reads.
-/

set_option autoImplicit false

namespace SpanDashboard

/-- An element as a click sees it. -/
structure PageNode where
  tag : String
  /-- The style classes, separated by spaces. -/
  classes : String
  attributes : List (String × String)
  deriving DecidableEq, Repr

/-- What a click lands on. -/
inductive ClickTarget where
  | none
  /-- Something on the page that is no element. -/
  | other
  /-- An element, followed by the elements around it from the inside out. -/
  | element (chain : List PageNode)
  deriving DecidableEq, Repr

namespace PageNode

/-- Whether the element has a style class. -/
def hasClass (n : PageNode) (c : String) : Bool :=
  (n.classes.toList.splitOn ' ').contains c.toList

/-- Whether the element is a cell that can be clicked. -/
def isClickableCell (n : PageNode) : Bool :=
  n.tag == Tag.td.name && n.hasClass "click"

/-- The value of an attribute. -/
def attribute? (n : PageNode) (a : Attribute) : Option String :=
  n.attributes.lookup a.name

end PageNode

/-- The nearest cell around the target that can be clicked: `closest("td.click")`. -/
def ClickTarget.cell? : ClickTarget → Option PageNode
  | none | other => Option.none
  | element chain => chain.find? PageNode.isClickableCell

/-- A click on a cell that opens a detail view: a `CellClick`. -/
structure Click where
  cell : OverviewCell
  rowKey : String
  deriving DecidableEq, Repr

namespace Click

/-- `cell_click_from_event`: what was clicked, if the click landed in a cell that names its column
and its row. -/
def ofTarget? (target : ClickTarget) : Option (Except Failure Click) := do
  let node ← target.cell?
  let column ← node.attribute? .column
  let rowKey ← node.attribute? .row
  some ((OverviewCell.ofAttributes column (node.attribute? .bucket)).map (⟨·, rowKey⟩))

/-- The click that the listener of `install_cell_click_listener` passes on. -/
def routed? (target : ClickTarget) : Option Click :=
  match ofTarget? target with
  | some (.ok click) => some click
  | _ => none

/-- The selection that the click makes. -/
def selection (click : Click) : Selection :=
  .ofCell click.cell click.rowKey

end Click

end SpanDashboard
