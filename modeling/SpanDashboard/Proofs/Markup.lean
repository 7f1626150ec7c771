import SpanDashboard.Proofs.Escape
import SpanDashboard.Proofs.Width

/-!
# Markup read back

HTML text is cut at its angle brackets into tags and the characters between them. Rendered markup is
cut into the tags of its elements and the characters of its escaped texts, in their order
(`cutFrom_chars`): no text and no value contains a bracket. So what is known of the elements of some
markup is known of the tags of its text.
-/

set_option autoImplicit false

namespace SpanDashboard

/-- A piece of HTML text: a tag, without its brackets, or a character that belongs to no tag. -/
inductive Piece where
  | tag (inside : List Char)
  | char (c : Char)
  deriving DecidableEq

namespace Piece

def tag? : Piece → Option (List Char)
  | tag inside => some inside
  | char _ => none

def char? : Piece → Option Char
  | tag _ => none
  | char c => some c

end Piece

namespace Markup

/-- Cuts HTML text into pieces. What has been read of a tag is `inside`, the last character first. A
tag that does not end is left out. -/
def cutFrom : Option (List Char) → List Char → List Piece
  | _, [] => []
  | none, c :: rest => if c = '<' then cutFrom (some []) rest else .char c :: cutFrom none rest
  | some inside, c :: rest =>
    if c = '>' then .tag inside.reverse :: cutFrom none rest else cutFrom (some (c :: inside)) rest

/-- The pieces of an HTML text. -/
def cut (html : String) : List Piece :=
  cutFrom none html.toList

/-- The tags of an HTML text. -/
def tags (html : String) : List (List Char) :=
  (cut html).filterMap Piece.tag?

/-- The characters of an HTML text that belong to no tag. -/
def text (html : String) : List Char :=
  (cut html).filterMap Piece.char?

theorem cutFrom_text {s : List Char} (plain : ∀ c ∈ s, c ≠ '<') (rest : List Char) :
    cutFrom none (s ++ rest) = s.map Piece.char ++ cutFrom none rest := by
  induction s with
  | nil => rfl
  | cons c s ih =>
    obtain ⟨first, others⟩ := List.forall_mem_cons.1 plain
    simp [cutFrom, first, ih others]

theorem cutFrom_inside {s : List Char} (closed : ∀ c ∈ s, c ≠ '>') (inside rest : List Char) :
    cutFrom (some inside) (s ++ '>' :: rest) =
      .tag (inside.reverse ++ s) :: cutFrom none rest := by
  induction s generalizing inside with
  | nil => simp [cutFrom]
  | cons c s ih =>
    obtain ⟨first, others⟩ := List.forall_mem_cons.1 closed
    simp [cutFrom, first, ih others]

theorem cutFrom_tag {s : List Char} (closed : ∀ c ∈ s, c ≠ '>') (rest : List Char) :
    cutFrom none ('<' :: s ++ '>' :: rest) = .tag s :: cutFrom none rest := by
  simp [cutFrom, cutFrom_inside closed]

end Markup

/-- What stands between the brackets of an opening tag. -/
def Tag.opening (tag : Tag) (attributes : List (Attribute × String)) : List Char :=
  tag.name.toList ++ Html.attributeChars attributes

/-- What stands between the brackets of a closing tag. -/
def Tag.closing (tag : Tag) : List Char :=
  '/' :: tag.name.toList

/-- Whether a tag opens an element of a kind: its name ends at the first space. -/
def Tag.opens (tag : Tag) (inside : List Char) : Bool :=
  inside.takeWhile (· ≠ ' ') = tag.name.toList

/-! ## Names and their ends -/

/-- The characters at which a name ends. -/
def Markup.separators : List Char :=
  ['<', '>', ' ', '=', '\'']

theorem Tag.not_separator_of_mem_name {tag : Tag} {c : Char} (member : c ∈ tag.name.toList) :
    c ∉ Markup.separators := by
  have plain : tag.name.toList.all (· ∉ Markup.separators) = true := by
    cases tag <;> decide
  exact of_decide_eq_true (List.all_eq_true.1 plain c member)

theorem Attribute.not_separator_of_mem_name {a : Attribute} {c : Char}
    (member : c ∈ a.name.toList) : c ∉ Markup.separators := by
  have plain : a.name.toList.all (· ∉ Markup.separators) = true := by
    cases a <;> decide
  exact of_decide_eq_true (List.all_eq_true.1 plain c member)

theorem Markup.no_bracket_of_not_separator {c : Char} (plain : c ∉ separators) :
    c ≠ '<' ∧ c ≠ '>' := by
  simp only [separators, List.mem_cons, not_or] at plain
  exact ⟨plain.1, plain.2.1⟩

/-! ## The pieces of markup -/

namespace Html

theorem attributeChars_nil : attributeChars [] = [] := rfl

theorem attributeChars_cons (a : Attribute × String) (rest : List (Attribute × String)) :
    attributeChars (a :: rest) =
      ' ' :: a.1.name.toList ++ '=' :: '\'' :: Entity.escapeChars a.2.toList ++ ['\''] ++
        attributeChars rest :=
  List.flatMap_cons

/-- The brackets do not occur between the quotes of an attribute, nor in its name. -/
theorem no_bracket_of_mem_attributeChars {attributes : List (Attribute × String)} {c : Char}
    (member : c ∈ attributeChars attributes) : c ≠ '<' ∧ c ≠ '>' := by
  obtain ⟨⟨a, value⟩, -, member⟩ := List.mem_flatMap.1 member
  simp only [List.cons_append, List.mem_cons, List.mem_append, List.not_mem_nil, or_false] at member
  rcases member with rfl | (name | rfl | rfl | escaped) | rfl
  · decide
  · exact Markup.no_bracket_of_not_separator (Attribute.not_separator_of_mem_name name)
  · decide
  · decide
  · have kept := Entity.not_delimiter_of_mem_escapeChars escaped
    constructor
    · rintro rfl
      exact kept (by decide)
    · rintro rfl
      exact kept (by decide)
  · decide

theorem no_bracket_of_mem_opening {tag : Tag} {attributes : List (Attribute × String)} {c : Char}
    (member : c ∈ tag.opening attributes) : c ≠ '<' ∧ c ≠ '>' := by
  rcases List.mem_append.1 member with name | quoted
  · exact Markup.no_bracket_of_not_separator (Tag.not_separator_of_mem_name name)
  · exact no_bracket_of_mem_attributeChars quoted

theorem no_bracket_of_mem_closing {tag : Tag} {c : Char} (member : c ∈ tag.closing) :
    c ≠ '<' ∧ c ≠ '>' := by
  rcases List.mem_cons.1 member with rfl | name
  · decide
  · exact Markup.no_bracket_of_not_separator (Tag.not_separator_of_mem_name name)

/-- The pieces of some markup. -/
def pieces : Html → List Piece
  | empty => []
  | text s rest => (Entity.escapeChars s.toList).map .char ++ rest.pieces
  | lineBreak rest => .tag ['b', 'r'] :: rest.pieces
  | element tag attributes children rest =>
    .tag (tag.opening attributes) ::
      (children.pieces ++ .tag tag.closing :: rest.pieces)

@[simp] theorem pieces_append (m n : Html) : (m ++ n).pieces = m.pieces ++ n.pieces := by
  induction m with
  | empty => rfl
  | text s rest ih => simp [pieces, ih]
  | lineBreak rest ih => simp [pieces, ih]
  | element tag attributes children rest _ ih => simp [pieces, ih]

theorem pieces_ofText (s : String) :
    (ofText s).pieces = (Entity.escapeChars s.toList).map .char := by
  simp [ofText, pieces]

theorem pieces_node (tag : Tag) (attributes : List (Attribute × String)) (children : Html) :
    (node tag attributes children).pieces =
      .tag (tag.opening attributes) :: (children.pieces ++ [.tag tag.closing]) := by
  simp [node, pieces]

theorem pieces_concat (ms : List Html) : (concat ms).pieces = ms.flatMap pieces := by
  induction ms with
  | nil => rfl
  | cons m rest ih => exact (pieces_append m (concat rest)).trans (by simp [ih])

/-- Rendered markup is cut into its own pieces, whatever follows it. -/
theorem cutFrom_chars (m : Html) (rest : List Char) :
    Markup.cutFrom none (m.chars ++ rest) = m.pieces ++ Markup.cutFrom none rest := by
  induction m generalizing rest with
  | empty => rfl
  | text s next ih =>
    have plain : ∀ c ∈ Entity.escapeChars s.toList, c ≠ '<' := by
      rintro c member rfl
      exact Entity.not_delimiter_of_mem_escapeChars member (by decide)
    rw [chars, pieces, List.append_assoc, Markup.cutFrom_text plain, ih, List.append_assoc]
  | lineBreak next ih =>
    have cut := Markup.cutFrom_tag (s := ['b', 'r']) (by simp) (next.chars ++ rest)
    rw [chars, pieces, List.append_assoc]
    exact cut.trans (congrArg _ (ih rest))
  | element tag attributes children next ihChildren ih =>
    have opened := Markup.cutFrom_tag (s := tag.opening attributes)
      (fun _ member => (no_bracket_of_mem_opening member).2)
      (children.chars ++ (closingTag tag ++ (next.chars ++ rest)))
    have closed := Markup.cutFrom_tag (s := tag.closing)
      (fun _ member => (no_bracket_of_mem_closing member).2) (next.chars ++ rest)
    have start : openingTag tag attributes = '<' :: tag.opening attributes ++ ['>'] := by
      simp [openingTag, Tag.opening]
    have finish : closingTag tag = '<' :: tag.closing ++ ['>'] := by
      simp [closingTag, Tag.closing]
    rw [finish] at opened
    rw [chars, pieces, start, finish]
    simp only [List.append_assoc, List.cons_append, List.nil_append] at opened closed ⊢
    rw [opened, ihChildren, closed, ih]

/-- The text of some markup is cut into its pieces. -/
theorem cut_render (m : Html) : Markup.cut m.render = m.pieces := by
  have whole := m.cutFrom_chars []
  rw [List.append_nil] at whole
  rw [Markup.cut, render, String.toList_ofList, whole]
  exact List.append_nil _

/-- The tags of some markup. -/
def tags (m : Html) : List (List Char) :=
  m.pieces.filterMap Piece.tag?

theorem tags_render (m : Html) : Markup.tags m.render = m.tags := by
  rw [Markup.tags, cut_render]
  rfl

/-- No bracket is left outside of the tags. -/
theorem no_bracket_of_mem_text {m : Html} {c : Char} (member : c ∈ Markup.text m.render) :
    c ≠ '<' ∧ c ≠ '>' := by
  rw [Markup.text, cut_render] at member
  induction m with
  | empty => cases member
  | text s rest ih =>
    rw [pieces, List.filterMap_append, List.mem_append] at member
    rcases member with escaped | later
    · rw [List.filterMap_map, show Piece.char? ∘ Piece.char = some from rfl,
        List.filterMap_some] at escaped
      have kept := Entity.not_delimiter_of_mem_escapeChars escaped
      constructor
      · rintro rfl
        exact kept (by decide)
      · rintro rfl
        exact kept (by decide)
    · exact ih later
  | lineBreak rest ih => exact ih member
  | element tag attributes children rest ihChildren ih =>
    rw [pieces, List.filterMap_cons_none rfl, List.filterMap_append, List.mem_append] at member
    rcases member with inner | later
    · exact ihChildren inner
    · exact ih later

@[simp] theorem tags_empty : empty.tags = [] := rfl

@[simp] theorem tags_text (s : String) (rest : Html) : (text s rest).tags = rest.tags := by
  simp [tags, pieces, Piece.tag?, List.filterMap_map, Function.comp_def]

@[simp] theorem tags_lineBreak (rest : Html) :
    (lineBreak rest).tags = ['b', 'r'] :: rest.tags := rfl

@[simp] theorem tags_element (tag : Tag) (attributes : List (Attribute × String))
    (children rest : Html) :
    (element tag attributes children rest).tags =
      tag.opening attributes :: (children.tags ++ tag.closing :: rest.tags) := by
  simp [tags, pieces, Piece.tag?]

theorem tags_append (m n : Html) : (m ++ n).tags = m.tags ++ n.tags := by
  simp [tags]

theorem tags_ofText (s : String) : (ofText s).tags = [] := by
  simp [ofText]

theorem tags_node (tag : Tag) (attributes : List (Attribute × String)) (children : Html) :
    (node tag attributes children).tags =
      tag.opening attributes :: (children.tags ++ [tag.closing]) := by
  simp [node]

end Html

/-! ## The elements that tags open -/

namespace Tag

theorem name_toList_injective {tag other : Tag} (same : tag.name.toList = other.name.toList) :
    tag = other := by
  revert same
  cases tag <;> cases other <;> decide

theorem takeWhile_opening (tag : Tag) (attributes : List (Attribute × String)) :
    (tag.opening attributes).takeWhile (· ≠ ' ') = tag.name.toList := by
  have no_space : ∀ c ∈ tag.name.toList, decide (c ≠ ' ') = true := by
    intro c name
    rw [decide_eq_true_iff]
    rintro rfl
    exact not_separator_of_mem_name name (by decide)
  have ended : (Html.attributeChars attributes).takeWhile (· ≠ ' ') = [] := by
    cases attributes <;> rfl
  rw [opening, List.takeWhile_append_of_pos no_space, ended, List.append_nil]

theorem opens_opening (tag other : Tag) (attributes : List (Attribute × String)) :
    tag.opens (other.opening attributes) = decide (other = tag) := by
  rw [opens, takeWhile_opening, decide_eq_decide]
  constructor
  · exact name_toList_injective
  · rintro rfl
    rfl

/-- No opening tag is a closing one: its first character belongs to a name. -/
theorem opening_ne_closing (tag other : Tag) (attributes : List (Attribute × String)) :
    tag.opening attributes ≠ other.closing := by
  intro same
  have heads := congrArg List.head? same
  have name_head : (tag.opening attributes).head? = tag.name.toList.head? := by
    cases tag <;> rfl
  rw [name_head] at heads
  revert heads
  cases tag <;> simp [closing, name]

theorem opens_closing (tag other : Tag) : tag.opens other.closing = false := by
  cases tag <;> cases other <;> rfl

end Tag

namespace Html

/-- As many tags open an element of a kind as there are such elements. -/
theorem countP_opens_tags (tag : Tag) (m : Html) : m.tags.countP tag.opens = m.count tag := by
  induction m with
  | empty => rfl
  | text s rest ih => simp [count, ih]
  | lineBreak rest ih =>
    have other : tag.opens ['b', 'r'] = false := by cases tag <;> rfl
    simp [count, ih, other]
  | element other attributes children rest ihChildren ih =>
    simp [count, ih, ihChildren, Tag.opens_opening, Tag.opens_closing, List.countP_cons]
    omega

/-- Only an element has a closing tag of its name. -/
theorem count_pos_of_closing {tag : Tag} {m : Html} (member : .tag tag.closing ∈ m.pieces) :
    0 < m.count tag := by
  induction m with
  | empty => cases member
  | text s rest ih =>
    rw [pieces, List.mem_append] at member
    rcases member with escaped | later
    · obtain ⟨c, -, same⟩ := List.mem_map.1 escaped
      cases same
    · exact ih later
  | lineBreak rest ih =>
    rcases List.mem_cons.1 member with same | later
    · cases same
    · exact ih later
  | element other attributes children rest ihChildren ih =>
    simp only [pieces, List.mem_cons, List.mem_append, Piece.tag.injEq] at member
    rw [count]
    rcases member with same | inner | same | later
    · exact absurd same.symm (Tag.opening_ne_closing other tag attributes)
    · exact Nat.add_pos_left (Nat.add_pos_right _ (ihChildren inner)) _
    · obtain rfl : tag = other := Tag.name_toList_injective (List.cons.inj same).2
      rw [if_pos rfl]
      omega
    · exact Nat.add_pos_right _ (ih later)

end Html

/-! ## The contents of elements -/

namespace Markup

/-- The elements of a kind in the order in which they open: the opening tag, and all pieces up to
the next closing tag of the kind. -/
def elements (tag : Tag) : List Piece → List (List Char × List Piece)
  | [] => []
  | .char _ :: rest => elements tag rest
  | .tag inside :: rest =>
    if tag.opens inside then
      (inside, rest.takeWhile (· ≠ .tag tag.closing)) :: elements tag rest
    else elements tag rest

/-- A tag that does not open an element of the kind is passed over. -/
theorem elements_other {tag : Tag} {inside : List Char} (other : tag.opens inside = false)
    (later : List Piece) : elements tag (.tag inside :: later) = elements tag later := by
  rw [elements, other]
  rfl

end Markup

namespace Html

/-- Markup without elements of a kind is passed over. -/
theorem elements_pieces {tag : Tag} {m : Html} (absent : m.count tag = 0) (later : List Piece) :
    Markup.elements tag (m.pieces ++ later) = Markup.elements tag later := by
  have none_opens : ∀ inside, .tag inside ∈ m.pieces → tag.opens inside = false := by
    intro inside member
    have counted := m.countP_opens_tags tag
    rw [absent, List.countP_eq_zero] at counted
    exact eq_false_of_ne_true (counted inside (List.mem_filterMap.2 ⟨_, member, rfl⟩))
  generalize m.pieces = first at none_opens
  induction first with
  | nil => rfl
  | cons piece rest ih =>
    have others := ih fun inside member => none_opens inside (List.mem_cons_of_mem _ member)
    cases piece with
    | char c => exact others
    | tag inside =>
      rw [List.cons_append, Markup.elements_other (none_opens inside List.mem_cons_self), others]

/-- An element without others of its kind inside of it. -/
theorem elements_node {tag : Tag} {m : Html} (alone : m.count tag = 0)
    (attributes : List (Attribute × String)) (later : List Piece) :
    Markup.elements tag ((node tag attributes m).pieces ++ later) =
      (tag.opening attributes, m.pieces) :: Markup.elements tag later := by
  have opened : tag.opens (tag.opening attributes) = true := by
    rw [Tag.opens_opening, decide_eq_true_iff]
  have none_closes : ∀ piece ∈ m.pieces, decide (piece ≠ .tag tag.closing) = true := by
    intro piece member
    rw [decide_eq_true_iff]
    rintro rfl
    exact Nat.ne_of_gt (count_pos_of_closing member) alone
  rw [pieces_node, List.cons_append, List.append_assoc, List.singleton_append, Markup.elements,
    if_pos opened, List.takeWhile_append_of_pos none_closes, elements_pieces alone,
    Markup.elements_other (Tag.opens_closing tag tag)]
  simp

/-- Elements one after another, without others of their kind inside of them. -/
theorem elements_concat {α : Type} (tag : Tag) (attributes : α → List (Attribute × String))
    (content : α → Html) {as : List α} (alone : ∀ a ∈ as, (content a).count tag = 0)
    (later : List Piece) :
    Markup.elements tag
        ((concat (as.map fun a => node tag (attributes a) (content a))).pieces ++ later) =
      as.map (fun a => (tag.opening (attributes a), (content a).pieces)) ++
        Markup.elements tag later := by
  induction as with
  | nil => rfl
  | cons a rest ih =>
    obtain ⟨first, others⟩ := List.forall_mem_cons.1 alone
    rw [pieces_concat, List.map_cons, List.flatMap_cons, ← pieces_concat, List.append_assoc,
      elements_node first, ih others]
    rfl

end Html

/-- The labels in a header, as they are read back. -/
theorem Table.elements_header (spec : ViewSpec) :
    Markup.elements .th (Markup.cut (headerHtml spec).render) =
      spec.labels.map fun label => (Tag.th.opening [], (Html.ofText label).pieces) := by
  have found := Html.elements_concat .th (fun _ => []) Html.ofText
    (fun label (_ : label ∈ spec.labels) => Html.count_ofText .th label)
    [.tag Tag.tr.closing, .tag Tag.thead.closing]
  rw [headerHtml, Html.cut_render, Html.pieces_append, Html.elements_pieces]
  · rw [Html.pieces_node, Html.pieces_node, Markup.elements_other rfl, List.cons_append,
      Markup.elements_other rfl, List.append_assoc, List.singleton_append, found,
      Markup.elements_other rfl, Markup.elements_other rfl, Markup.elements, List.append_nil]
  · rw [Html.count_node, count_layout]
    rfl

end SpanDashboard
