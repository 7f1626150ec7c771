import SpanDashboard.Html.Entity

/-!
# Markup

The part of HTML that the dashboard writes: a sequence of texts, line breaks and elements with
attributes and contents. `td`, `clickable_td`, `render_header`, `subheading` and the others put
their text together from strings, into which they put `html_escape` of what is shown; here every
text and every attribute value is escaped when the markup is rendered, so nothing that is shown can
become a tag.
-/

set_option autoImplicit false

namespace SpanDashboard

/-- The elements that are written. -/
inductive Tag where
  | colgroup | col | thead | tbody | tr | th | td | span | pre | code | h2 | i
  deriving DecidableEq, Repr

/-- The name of an element. -/
def Tag.name : Tag → String
  | colgroup => "colgroup"
  | col => "col"
  | thead => "thead"
  | tbody => "tbody"
  | tr => "tr"
  | th => "th"
  | td => "td"
  | span => "span"
  | pre => "pre"
  | code => "code"
  | h2 => "h2"
  | i => "i"

/-- The attributes that are written: the style class, and on a cell that can be clicked its column,
the key of its row and its latency bucket. -/
inductive Attribute where
  | style | column | row | bucket
  deriving DecidableEq, Repr

/-- The name of an attribute. -/
def Attribute.name : Attribute → String
  | style => "class"
  | column => "data-column"
  | row => "data-row"
  | bucket => "data-bucket"

/-- A sequence of texts, line breaks and elements; `rest` is what follows in the sequence. -/
inductive Html where
  | empty
  | text (s : String) (rest : Html)
  | lineBreak (rest : Html)
  | element (tag : Tag) (attributes : List (Attribute × String)) (children rest : Html)
  deriving DecidableEq, Repr

namespace Html

/-- One sequence after another. -/
def append : Html → Html → Html
  | empty, m => m
  | text s rest, m => text s (rest.append m)
  | lineBreak rest, m => lineBreak (rest.append m)
  | element tag attributes children rest, m => element tag attributes children (rest.append m)

instance : Append Html :=
  ⟨append⟩

/-- Several sequences, one after another. -/
def concat (ms : List Html) : Html :=
  ms.foldr append empty

/-- A single text. -/
def ofText (s : String) : Html :=
  text s empty

/-- A single element. -/
def node (tag : Tag) (attributes : List (Attribute × String)) (children : Html) : Html :=
  element tag attributes children empty

/-- The characters of the attributes of an opening tag. -/
def attributeChars (attributes : List (Attribute × String)) : List Char :=
  attributes.flatMap fun a =>
    ' ' :: a.1.name.toList ++ '=' :: '\'' :: Entity.escapeChars a.2.toList ++ ['\'']

/-- The characters of an opening tag. -/
def openingTag (tag : Tag) (attributes : List (Attribute × String)) : List Char :=
  '<' :: tag.name.toList ++ attributeChars attributes ++ ['>']

/-- The characters of a closing tag. -/
def closingTag (tag : Tag) : List Char :=
  '<' :: '/' :: tag.name.toList ++ ['>']

/-- The characters of a line break. -/
def lineBreakTag : List Char :=
  ['<', 'b', 'r', '>']

/-- The characters of the markup. -/
def chars : Html → List Char
  | empty => []
  | text s rest => Entity.escapeChars s.toList ++ rest.chars
  | lineBreak rest => lineBreakTag ++ rest.chars
  | element tag attributes children rest =>
    openingTag tag attributes ++ children.chars ++ closingTag tag ++ rest.chars

/-- The markup as HTML text. -/
def render (m : Html) : String :=
  String.ofList m.chars

@[simp] theorem empty_append (m : Html) : empty ++ m = m := rfl

@[simp] theorem text_append (s : String) (rest m : Html) :
    text s rest ++ m = text s (rest ++ m) := rfl

@[simp] theorem lineBreak_append (rest m : Html) :
    lineBreak rest ++ m = lineBreak (rest ++ m) := rfl

@[simp] theorem element_append (tag : Tag) (attributes : List (Attribute × String))
    (children rest m : Html) :
    element tag attributes children rest ++ m = element tag attributes children (rest ++ m) := rfl

@[simp] theorem chars_append (m n : Html) : (m ++ n).chars = m.chars ++ n.chars := by
  induction m with
  | empty => rfl
  | text s rest ih => simp [chars, ih]
  | lineBreak rest ih => simp [chars, ih]
  | element tag attributes children rest _ ih => simp [chars, ih]

@[simp] theorem chars_ofText (s : String) : (ofText s).chars = Entity.escapeChars s.toList := by
  simp [ofText, chars]

@[simp] theorem chars_node (tag : Tag) (attributes : List (Attribute × String)) (children : Html) :
    (node tag attributes children).chars =
      openingTag tag attributes ++ children.chars ++ closingTag tag := by
  simp [node, chars]

@[simp] theorem chars_concat (ms : List Html) : (concat ms).chars = ms.flatMap chars := by
  induction ms with
  | nil => rfl
  | cons m rest ih => exact (chars_append m (concat rest)).trans (by simp [ih])

end Html

end SpanDashboard
