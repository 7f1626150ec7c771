import SpanDashboard.Failure
import SpanDashboard.Page.Write
import SpanDashboard.Settings

/-!
# Pages

As much of a page as the dashboard depends on, and what `DomSurface` does to it. A page may lack its
window or its document, an element may lack a table body or refuse an insertion; a write that the
page cannot carry out changes nothing.
-/

set_option autoImplicit false

namespace SpanDashboard

/-- What a search for the table body in an element finds, with `query_selector`. -/
inductive BodyLookup where
  | present | missing | failing
  deriving DecidableEq, Repr

/-- An element that tables and texts are written to. -/
structure PageElement where
  id : String
  body : BodyLookup
  /-- Whether the table body refuses insertions. -/
  insertFails : Bool
  /-- The contents as they were last set. -/
  html : String := ""
  /-- What has been inserted into the table body since. -/
  inserted : String := ""
  deriving DecidableEq, Repr

/-- A page. -/
structure Page where
  hasWindow : Bool := true
  hasDocument : Bool := true
  /-- The host that the page comes from, if it can be read. -/
  hostname : Option String := none
  /-- The number after the host's colon in the page's address, if it can be read. -/
  portNumber : Option String := none
  /-- Whether the document refuses listeners. -/
  listenerFails : Bool := false
  elements : List PageElement := []
  deriving DecidableEq, Repr

namespace PageElement

/-- The element with new contents: `set_inner_html`. -/
def putHtml (e : PageElement) (html : String) : PageElement :=
  { e with html := html, inserted := "" }

/-- The element with rows added to its table body, if it has one that takes them: `append_rows`. -/
def addRows (e : PageElement) (rows : String) : PageElement :=
  if e.body = .present ∧ e.insertFails = false then { e with inserted := e.inserted ++ rows }
  else e

/-- The element after a write to it: `replace_table`, `append_rows` or `set_html`. -/
def apply (e : PageElement) : Write → PageElement
  | .putTable _ table => e.putHtml table.html
  | .addRows _ rows => e.addRows rows
  | .putHtml _ html => e.putHtml html

@[simp] theorem id_apply (e : PageElement) (w : Write) : (e.apply w).id = e.id := by
  cases w with
  | putTable => rfl
  | addRows => simp only [apply, addRows]; split <;> rfl
  | putHtml => rfl

end PageElement

namespace Page

/-- Changes the first element with an identifier, the one that `get_element_by_id` finds. -/
def modifyFirst (id : String) (change : PageElement → PageElement) :
    List PageElement → List PageElement
  | [] => []
  | e :: rest => if e.id = id then change e :: rest else e :: modifyFirst id change rest

/-- Whether the page has a document to find elements in: `document`. -/
def isReachable (p : Page) : Bool :=
  p.hasWindow && p.hasDocument

/-- The page after a write of `DomSurface`. -/
def apply (p : Page) (w : Write) : Page :=
  if p.isReachable then { p with elements := modifyFirst w.id (·.apply w) p.elements } else p

/-- The origin of the server, as `get_api_base` finds it; a part of the address that cannot be read
counts as empty. -/
def serverOrigin (p : Page) : String :=
  let readable (part : Option String) := if p.hasWindow then part.getD "" else ""
  Settings.serverOriginFor (readable p.hostname) (readable p.portNumber)

/-- Installs a listener for clicks anywhere in the document: `install_cell_click_listener`. -/
def installListener (p : Page) : Except Failure Unit :=
  if !p.isReachable then .error (.page "no document on window")
  else if p.listenerFails then .error (.page "failed to add click listener")
  else .ok ()

/-- A write moves no element and changes no identifier. -/
theorem map_id_elements_apply (p : Page) (w : Write) :
    (p.apply w).elements.map PageElement.id = p.elements.map PageElement.id := by
  have unchanged (es : List PageElement) :
      (modifyFirst w.id (·.apply w) es).map PageElement.id = es.map PageElement.id := by
    induction es with
    | nil => rfl
    | cons e rest ih => simp only [modifyFirst]; split <;> simp [ih]
  unfold apply
  split
  · exact unchanged p.elements
  · rfl

end Page

end SpanDashboard
