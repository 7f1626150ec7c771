import Mathlib.Data.Bool.AllAny
import SpanDashboard.Html.Shown
import SpanDashboard.Proofs.Escape

/-!
# Escaped texts

The five replacements of `html_escape`, each of which reads what the ones before it have written,
come to a single pass in which every character is written by itself
(`escapeChars_eq_flatMap_ofChar`). An ampersand in an escaped text therefore begins an entity
(`beginsEntity_of_ampersand`), and no escaped text is taken for the marker of a text that is not set
(`render_shownText_eq_notSet_iff`).
-/

set_option autoImplicit false

namespace SpanDashboard

/-! ## A single pass -/

namespace Entity

/-- What is written for a character: its entity, or the character itself if it has none. -/
def ofChar (c : Char) : List Char :=
  (table.lookup c).getD [c]

/-- Whether a text begins with an entity. -/
def BeginsEntity (text : List Char) : Prop :=
  ∃ entry ∈ table, entry.2 <+: text

theorem ofChar_plain {c : Char} (plain : c ∉ special) : ofChar c = [c] := by
  have missing : table.lookup c = none := by
    refine List.lookup_eq_none_iff.2 fun entry member => ?_
    have other : entry.1 ≠ c := fun same => plain (same ▸ List.mem_map_of_mem member)
    exact bne_iff_ne.2 other.symm
  rw [ofChar, missing, Option.getD_none]

/-- The replacements agree with the pass on a single character. -/
theorem escapeChars_eq_ofChar (c : Char) : escapeChars [c] = ofChar c := by
  have entities : special.all (fun d => escapeChars [d] = ofChar d) = true := by decide
  by_cases escaped : c ∈ special
  · exact List.all_iff_forall_prop.1 entities c escaped
  · rw [escapeChars_singleton escaped, ofChar_plain escaped]

theorem escapeChars_eq_flatMap_ofChar (text : List Char) :
    escapeChars text = text.flatMap ofChar := by
  rw [escapeChars_eq_flatMap]
  exact List.flatMap_congr fun c _ => escapeChars_eq_ofChar c

/-- The pass writes an ampersand only for a special character, as the first character of its
entity. -/
theorem ampersand_of_ofChar {c : Char} {before rest : List Char}
    (written : ofChar c = before ++ '&' :: rest) : before = [] ∧ (c, '&' :: rest) ∈ table := by
  have entities : special.all (fun d => (d, ofChar d) ∈ table ∧ '&' ∉ (ofChar d).tail) = true := by
    decide
  by_cases escaped : c ∈ special
  case pos =>
    obtain ⟨known, single⟩ := List.all_iff_forall_prop.1 entities c escaped
    rw [written] at known single
    cases before with
    | nil => exact ⟨rfl, known⟩
    | cons first before => exact absurd (List.mem_append_right before List.mem_cons_self) single
  case neg =>
    rw [ofChar_plain escaped] at written
    have ampersand : '&' ∈ [c] := written ▸ List.mem_append_right before List.mem_cons_self
    rw [← List.mem_singleton.1 ampersand] at escaped
    exact absurd (by decide) escaped

/-- An ampersand in an escaped text begins an entity: that of the character for which it has been
written. -/
theorem beginsEntity_of_ampersand {text before rest : List Char}
    (written : escapeChars text = before ++ '&' :: rest) : BeginsEntity ('&' :: rest) := by
  induction text generalizing before with
  | nil => simp [escapeChars, table, Text.replaceChar] at written
  | cons c text ih =>
    rw [escapeChars_cons, escapeChars_eq_ofChar] at written
    rcases List.append_eq_append_iff.1 written with ⟨later, -, after⟩ | ⟨inside, first, after⟩
    · exact ih after
    · cases inside with
      | nil => exact @ih [] after.symm
      | cons d inside =>
        obtain ⟨rfl, after⟩ := List.cons.inj after
        obtain ⟨-, known⟩ := ampersand_of_ofChar first
        exact ⟨_, known, after ▸ List.prefix_append ('&' :: inside) _⟩

theorem escape_append (s t : String) : escape (s ++ t) = escape s ++ escape t := by
  rw [escape, String.toList_append, escapeChars_append, String.ofList_append]
  rfl

theorem escape_injective {s t : String} (same : escape s = escape t) : s = t := by
  have read := unescape_escape s
  rw [same, unescape_escape] at read
  exact read.symm

end Entity

/-! ## Texts that are not set -/

namespace Html

/-- The marker for a text that is not set. -/
theorem render_notSet : notSet.render = "<span class='empty'>(not set)</span>" := by
  decide

theorem render_ofText (s : String) : (ofText s).render = Entity.escape s := by
  rw [render, chars_ofText, Entity.escape]

/-- No escaped text is the marker, which begins with a bracket. -/
theorem escape_ne_render_notSet (s : String) : Entity.escape s ≠ notSet.render := by
  intro same
  have bracket : '<' ∈ (Entity.escape s).toList := by
    rw [same, render_notSet]
    decide
  rw [Entity.escape, String.toList_ofList] at bracket
  exact Entity.not_delimiter_of_mem_escapeChars bracket (by decide)

/-- What is shown of a text: the marker if it is blank, the escaped text otherwise. -/
theorem render_shownText (s : String) :
    (shownText s).render = if Text.IsWhite s then notSet.render else Entity.escape s := by
  rw [shownText_eq]
  split
  · rfl
  · exact render_ofText s

theorem render_shownText_eq_notSet_iff (s : String) :
    (shownText s).render = notSet.render ↔ Text.IsWhite s := by
  rw [render_shownText]
  split
  case isTrue blank => exact iff_of_true rfl blank
  case isFalse visible => exact iff_of_false (escape_ne_render_notSet s) visible

/-- A text in which there is something to see is told from all others. -/
theorem render_shownText_inj {s t : String} (visible : ¬ Text.IsWhite s) :
    (shownText s).render = (shownText t).render ↔ s = t := by
  refine ⟨fun same => ?_, fun same => same ▸ rfl⟩
  have visible_other : ¬ Text.IsWhite t := by
    rw [← render_shownText_eq_notSet_iff, ← same, render_shownText_eq_notSet_iff]
    exact visible
  rw [render_shownText, if_neg visible, render_shownText, if_neg visible_other] at same
  exact Entity.escape_injective same

end Html

namespace Entity

/-- **Escaping is safe and loses nothing.** The replacements come to one pass that writes each
character by itself. The escaped text has no bracket and no quotation mark, each ampersand in it
begins an entity, and reading the entities back gives the text, so different texts are escaped
differently. A text is shown as the marker for one that is not set exactly if all of its characters
are blank, and any other text is told by how it is shown. -/
theorem escape_safe_and_lossless (s : String) :
    (escape s).toList = s.toList.flatMap ofChar ∧
    (∀ t, escape (s ++ t) = escape s ++ escape t) ∧
    (∀ c ∈ (escape s).toList, c ≠ '<' ∧ c ≠ '>' ∧ c ≠ '"' ∧ c ≠ '\'') ∧
    (∀ before rest, (escape s).toList = before ++ '&' :: rest → BeginsEntity ('&' :: rest)) ∧
    unescape (escape s) = s ∧
    (∀ t, escape s = escape t ↔ s = t) ∧
    ((Html.shownText s).render = "<span class='empty'>(not set)</span>" ↔
      ∀ c ∈ s.toList, c.toNat ∈ Text.whiteSpace) ∧
    ((∃ c ∈ s.toList, c.toNat ∉ Text.whiteSpace) →
      ∀ t, (Html.shownText s).render = (Html.shownText t).render ↔ s = t) := by
  have chars : (escape s).toList = escapeChars s.toList := String.toList_ofList
  refine ⟨?_, escape_append s, fun c member => ?_, fun before rest written => ?_,
    unescape_escape s, fun t => ⟨escape_injective, fun same => same ▸ rfl⟩, ?_, fun visible t => ?_⟩
  · rw [chars, escapeChars_eq_flatMap_ofChar]
  · rw [chars] at member
    simpa [delimiters] using not_delimiter_of_mem_escapeChars member
  · exact beginsEntity_of_ampersand (chars ▸ written)
  · rw [← Html.render_notSet, Html.render_shownText_eq_notSet_iff, Text.IsWhite]
  · refine Html.render_shownText_inj fun blank => ?_
    obtain ⟨c, member, visible⟩ := visible
    exact visible (blank c member)

/-- A bracket followed by the text of an entity, whose ampersand is escaped as well. -/
theorem escape_of_entity :
    (escape "<&lt;").toList = "&lt;".toList ++ '&' :: "amp;lt;".toList ∧
    BeginsEntity ('&' :: "amp;lt;".toList) ∧
    ((Html.shownText "<&lt;").render = (Html.shownText "<<").render ↔ "<&lt;" = "<<") := by
  have written : (escape "<&lt;").toList = "&lt;".toList ++ '&' :: "amp;lt;".toList := by decide
  obtain ⟨-, -, -, begins, -, -, -, told⟩ := escape_safe_and_lossless "<&lt;"
  exact ⟨written, begins _ _ written, told ⟨'<', by decide, by decide⟩ "<<"⟩

end Entity

end SpanDashboard
