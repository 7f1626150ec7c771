import Mathlib.Data.List.Basic
import Mathlib.Data.List.TakeWhile
import SpanDashboard.Html.Shown
import SpanDashboard.Text.Numeral

/-!
# Texts on the page

The five replacements of `html_escape` come to one replacement for each character. No bracket and no
quotation mark is left in an escaped text, and reading the entities back gives the text again. A
numeral has nothing to escape. A text is shown as a marker exactly if it is blank.
-/

set_option autoImplicit false

namespace SpanDashboard

namespace Entity

/-- The characters that are written as entities. -/
def special : List Char :=
  table.map Prod.fst

/-- The characters that end a text or a quoted value. -/
def delimiters : List Char :=
  ['<', '>', '"', '\'']

theorem special_of_mem_delimiters {c : Char} (delimiter : c ∈ delimiters) : c ∈ special := by
  have all : delimiters.all (· ∈ special) = true := by decide
  exact of_decide_eq_true (List.all_eq_true.1 all c delimiter)

theorem escapeChars_singleton {c : Char} (plain : c ∉ special) : escapeChars [c] = [c] := by
  simp only [special, table, List.map_cons, List.map_nil, List.mem_cons, not_or] at plain
  obtain ⟨amp, lt, gt, quote, apostrophe, -⟩ := plain
  simp [escapeChars, table, Text.replaceChar, amp, lt, gt, quote, apostrophe]

/-- Each character is escaped by itself. -/
theorem escapeChars_eq_flatMap (text : List Char) :
    escapeChars text = text.flatMap fun c => escapeChars [c] := by
  induction text with
  | nil => rfl
  | cons c rest ih =>
    rw [← List.singleton_append, escapeChars_append, ih]
    rfl

theorem escapeChars_cons (c : Char) (rest : List Char) :
    escapeChars (c :: rest) = escapeChars [c] ++ escapeChars rest :=
  escapeChars_append [c] rest

theorem escapeChars_eq_self {text : List Char} (plain : ∀ c ∈ text, c ∉ special) :
    escapeChars text = text := by
  induction text with
  | nil => rfl
  | cons c rest ih =>
    obtain ⟨first, others⟩ := List.forall_mem_cons.1 plain
    rw [escapeChars_cons, escapeChars_singleton first, ih others]
    rfl

/-- No delimiter is left in an escaped text. -/
theorem not_delimiter_of_mem_escapeChars {text : List Char} {c : Char}
    (member : c ∈ escapeChars text) : c ∉ delimiters := by
  have entities : (special.flatMap fun d => escapeChars [d]).all (· ∉ delimiters) = true := by
    decide
  rw [escapeChars_eq_flatMap] at member
  obtain ⟨d, -, written⟩ := List.mem_flatMap.1 member
  by_cases escaped : d ∈ special
  · exact of_decide_eq_true
      (List.all_eq_true.1 entities c (List.mem_flatMap.2 ⟨d, escaped, written⟩))
  · rw [escapeChars_singleton escaped, List.mem_singleton] at written
    subst written
    intro delimiter
    exact escaped (special_of_mem_delimiters delimiter)

/-- An entity is read back whatever follows it. -/
theorem unescapeFrom_entity {c : Char} (escaped : c ∈ special) (rest : List Char) :
    unescapeFrom 0 (escapeChars [c] ++ rest) = c :: unescapeFrom 0 rest := by
  simp only [special, table, List.map_cons, List.map_nil, List.mem_cons, List.not_mem_nil,
    or_false] at escaped
  rcases escaped with rfl | rfl | rfl | rfl | rfl <;> rfl

theorem unescapeFrom_plain {c : Char} (plain : c ∉ special) (rest : List Char) :
    unescapeFrom 0 (c :: rest) = c :: unescapeFrom 0 rest := by
  have other : c ≠ '&' := by
    rintro rfl
    exact plain (by decide)
  have nothing : leading? (c :: rest) = none := by
    simp [leading?, table, List.isPrefixOf, other.symm]
  rw [unescapeFrom, nothing]

/-- Reading the entities back undoes the escaping. -/
theorem unescapeFrom_escapeChars (text : List Char) : unescapeFrom 0 (escapeChars text) = text := by
  induction text with
  | nil => rfl
  | cons c rest ih =>
    rw [escapeChars_cons]
    by_cases escaped : c ∈ special
    · rw [unescapeFrom_entity escaped, ih]
    · rw [escapeChars_singleton escaped, List.singleton_append, unescapeFrom_plain escaped, ih]

theorem unescape_escape (s : String) : unescape (escape s) = s := by
  simp [unescape, escape, unescapeFrom_escapeChars]

end Entity

/-! ## Texts without special characters -/

namespace Numeral

theorem plain_of_isDigit {c : Char} (digit : c.isDigit = true) : c ∉ Entity.special := by
  intro escaped
  simp only [Entity.special, Entity.table, List.map_cons, List.map_nil, List.mem_cons,
    List.not_mem_nil, or_false] at escaped
  rcases escaped with rfl | rfl | rfl | rfl | rfl <;> exact absurd digit (by decide)

theorem plain_of_mem_ofNat {n : Nat} {c : Char} (member : c ∈ ofNat n) : c ∉ Entity.special :=
  plain_of_isDigit (isDigit_of_mem_ofNat member)

/-- A numeral is escaped to itself. -/
theorem escapeChars_ofNat (n : Nat) : Entity.escapeChars (ofNat n) = ofNat n :=
  Entity.escapeChars_eq_self fun _ member => plain_of_mem_ofNat member

end Numeral

/-! ## Blank texts -/

/-- All characters of a text are white space. -/
def Text.IsWhite (s : String) : Prop :=
  ∀ c ∈ s.toList, c.toNat ∈ whiteSpace

instance (s : String) : Decidable (Text.IsWhite s) :=
  decidable_of_iff (s.toList.all Text.isBlank = true)
    (List.all_eq_true.trans (forall₂_congr fun _ _ => Text.isBlank_iff))

/-- Nothing is left of a text without the blanks at its ends exactly if all of it is blank. -/
theorem Text.isEmpty_trim_iff (s : String) : (trim s).isEmpty = true ↔ IsWhite s := by
  have kept : (∀ c ∈ s.toList.dropWhile isBlank, isBlank c = true) ↔
      ∀ c ∈ s.toList, isBlank c = true := by
    constructor
    · intro rest c member
      rw [← List.takeWhile_append_dropWhile (p := isBlank) (l := s.toList),
        List.mem_append] at member
      exact member.elim (List.all_eq_true.1 List.all_takeWhile c) (rest c)
    · intro all c member
      exact all c ((List.dropWhile_sublist isBlank).subset member)
  simp only [IsWhite, ← isBlank_iff]
  rw [← kept, String.isEmpty_iff, trim]
  simp [List.dropWhile_eq_nil_iff]

theorem Html.shownText_eq (s : String) :
    shownText s = if Text.IsWhite s then notSet else ofText s := by
  simp only [shownText, Text.isEmpty_trim_iff]

end SpanDashboard
