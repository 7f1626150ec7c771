import SpanDashboard.Proofs.Strings
import SpanDashboard.Response

/-!
# The explanation in an error response

The best explanation of an error is the text under `error` in the body of the response, or else the
text under `message`, or else the body itself. `http_error_message` gives this one unless `error` is
there and is no text: then a text under `message` is hidden by it and the report shows the whole
body (`preferred_reported_iff`).
-/

set_option autoImplicit false

namespace SpanDashboard

/-- One text is another one without the white space at its two ends. -/
structure Text.IsTrimmed (s t : String) : Prop where
  within : ∃ before after, s.toList = before ++ t.toList ++ after ∧
    (∀ c ∈ before, c.toNat ∈ whiteSpace) ∧ ∀ c ∈ after, c.toNat ∈ whiteSpace
  first : ∀ c ∈ t.toList.head?, c.toNat ∉ whiteSpace
  last : ∀ c ∈ t.toList.getLast?, c.toNat ∉ whiteSpace

namespace Text

theorem takeWhile_isBlank (text : List Char) :
    ∀ c ∈ text.takeWhile isBlank, c.toNat ∈ whiteSpace :=
  fun c member => isBlank_iff.1 (List.all_eq_true.1 List.all_takeWhile c member)

theorem head?_dropWhile_isBlank {text : List Char} {c : Char}
    (first : c ∈ (text.dropWhile isBlank).head?) : c.toNat ∉ whiteSpace := by
  have kept := List.head?_dropWhile_not isBlank text
  rw [Option.mem_def.1 first] at kept
  exact not_isBlank_iff.1 kept

theorem isTrimmed_trim (s : String) : IsTrimmed s (trim s) := by
  let front := s.toList.takeWhile isBlank
  let rest := s.toList.dropWhile isBlank
  have whole : front ++ rest = s.toList := List.takeWhile_append_dropWhile
  let back := (rest.reverse.takeWhile isBlank).reverse
  let middle := (rest.reverse.dropWhile isBlank).reverse
  have split : middle ++ back = rest := by
    rw [← List.reverse_append, List.takeWhile_append_dropWhile, List.reverse_reverse]
  have trimmed : (trim s).toList = middle := String.toList_ofList
  refine ⟨⟨front, back, ?_, takeWhile_isBlank _, ?_⟩, ?_, ?_⟩
  · rw [trimmed, List.append_assoc, split, whole]
  · intro c member
    exact takeWhile_isBlank _ c (List.mem_reverse.1 member)
  · intro c first
    have leads : c ∈ rest.head? := by
      rw [← split, List.head?_append, ← trimmed, Option.mem_def.1 first]
      rfl
    exact head?_dropWhile_isBlank leads
  · intro c last
    rw [trimmed, List.getLast?_reverse] at last
    exact head?_dropWhile_isBlank last

end Text

namespace Response

/-- The text of a member of the object that a body is. -/
def textMember? (key body : String) : Option String := do
  let value ← Json.parse? body
  match value.member? key with
  | some (.string s) => some s
  | _ => none

/-- The best explanation that a body gives: its member `error` if that is a text, otherwise its
member `message` if that is a text, otherwise the body without the blanks at its ends. -/
def preferred (body : String) : String :=
  ((textMember? "error" body).or (textMember? "message" body)).getD (Text.trim body)

/-- The report with a given explanation. -/
def report (url : String) (status : Nat) (detail : String) : String :=
  "GET " ++ url ++ " returned HTTP " ++ Numeral.text status ++
    if detail = "" then "" else " (" ++ detail ++ ")"

/-- A member `error` that is no text stands before a text under `message`. -/
def Hides (body : String) : Prop :=
  ∃ members value message, Json.parse? body = some (.object members) ∧
    members.lookup "error" = some value ∧ (∀ s, value ≠ .string s) ∧
    members.lookup "message" = some (.string message)

theorem statusReport_eq (url : String) (status : Nat) (body : String) :
    statusReport url status body = report url status (explanation body) := by
  simp only [statusReport, report, String.isEmpty_iff]
  split <;> simp [String.append_assoc]

theorem report_inj {url : String} {status : Nat} {detail other : String} :
    report url status detail = report url status other ↔ detail = other := by
  rw [report, report, String.append_right_inj]
  split <;> split <;> simp_all [String.append_right_inj, String.append_left_inj]

/-! ## Bodies that are objects, and others -/

section Object

variable {body : String} {members : List (String × Json)}

theorem textMember?_object (parsed : Json.parse? body = some (.object members)) (key : String) :
    textMember? key body =
      match members.lookup key with
      | some (.string s) => some s
      | _ => none := by
  rw [textMember?, parsed]
  rfl

theorem explanation_object (parsed : Json.parse? body = some (.object members)) :
    explanation body =
      match (members.lookup "error").or (members.lookup "message") with
      | some (.string s) => s
      | _ => Text.trim body := by
  rw [explanation, parsed]
  rfl

/-- A member `error` that is no text is no explanation, and keeps others from being one. -/
theorem explanation_blocked (parsed : Json.parse? body = some (.object members)) {value : Json}
    (given : members.lookup "error" = some value) (no_text : ∀ s, value ≠ .string s) :
    textMember? "error" body = none ∧ explanation body = Text.trim body := by
  rw [textMember?_object parsed, explanation_object parsed, given, Option.some_or]
  cases value <;> first | exact ⟨rfl, rfl⟩ | exact absurd rfl (no_text _)

end Object

theorem member?_eq_none {value : Json} (other : ∀ members, value ≠ .object members)
    (key : String) : value.member? key = none := by
  cases value <;> first | rfl | exact absurd rfl (other _)

/-- A body that is no object is its own explanation. -/
theorem explanation_other {body : String}
    (other : ∀ members, Json.parse? body ≠ some (.object members)) :
    explanation body = Text.trim body ∧ ∀ key, textMember? key body = none := by
  cases parsed : Json.parse? body with
  | none => simp [explanation, textMember?, parsed]
  | some value =>
    have no_object : ∀ members, value ≠ .object members := by
      rintro members rfl
      exact other members parsed
    simp [explanation, textMember?, parsed, member?_eq_none no_object]

theorem exists_object_of_textMember? {key body s : String}
    (found : textMember? key body = some s) : ∃ members, Json.parse? body = some (.object members) ∧
      members.lookup key = some (.string s) := by
  by_cases object : ∃ members, Json.parse? body = some (.object members)
  · obtain ⟨members, parsed⟩ := object
    rw [textMember?_object parsed] at found
    split at found
    case h_1 r there =>
      obtain rfl := Option.some.inj found
      exact ⟨members, parsed, there⟩
    case h_2 => cases found
  · have other := explanation_other fun members parsed => object ⟨members, parsed⟩
    rw [other.2 key] at found
    cases found

/-- A text in the body has fewer characters that are not blank than the body. -/
theorem weight_lt_of_textMember? {key body s : String} (found : textMember? key body = some s) :
    Text.weight s.toList < Text.weight (Text.trim body).toList := by
  obtain ⟨members, parsed, there⟩ := exists_object_of_textMember? found
  obtain ⟨before, after, split, -⟩ := List.lookup_eq_some_iff.1 there
  have member : (key, Json.string s) ∈ members := by
    rw [split]
    exact List.mem_append_right before List.mem_cons_self
  rw [Text.weight_trim]
  exact Json.weight_lt_of_contains parsed (.value member .string)

/-- What is hidden and what is shown instead. -/
theorem Hides.shown {body : String} (hides : Hides body) :
    explanation body = Text.trim body ∧ textMember? "message" body = some (preferred body) := by
  obtain ⟨members, value, message, parsed, first, no_text, second⟩ := hides
  obtain ⟨nothing, whole⟩ := explanation_blocked parsed first no_text
  have given : textMember? "message" body = some message := by
    rw [textMember?_object parsed, second]
  refine ⟨whole, ?_⟩
  rw [preferred, nothing, given]
  rfl

theorem explanation_of_not_hides {body : String} (shown : ¬ Hides body) :
    explanation body = preferred body := by
  by_cases object : ∃ members, Json.parse? body = some (.object members)
  · obtain ⟨members, parsed⟩ := object
    cases first : members.lookup "error" with
    | none =>
      rw [preferred, explanation_object parsed, textMember?_object parsed,
        textMember?_object parsed, first, Option.none_or]
      cases members.lookup "message" with
      | none => rfl
      | some value => cases value <;> rfl
    | some value =>
      by_cases text : ∃ s, value = .string s
      · obtain ⟨s, rfl⟩ := text
        rw [preferred, explanation_object parsed, textMember?_object parsed, first]
        rfl
      · have no_text : ∀ s, value ≠ .string s := not_exists.1 text
        have no_message : textMember? "message" body = none := by
          refine Option.eq_none_iff_forall_ne_some.2 fun message found => ?_
          obtain ⟨others, parsed', second⟩ := exists_object_of_textMember? found
          have same := Option.some.inj (parsed.symm.trans parsed')
          obtain rfl : members = others := Json.object.inj same
          exact shown ⟨members, value, message, parsed, first, no_text, second⟩
        obtain ⟨nothing, whole⟩ := explanation_blocked parsed first no_text
        rw [preferred, nothing, no_message, whole]
        rfl
  · have other := explanation_other fun members parsed => object ⟨members, parsed⟩
    rw [other.1, preferred, other.2, other.2]
    rfl

theorem explanation_eq_preferred_iff (body : String) :
    explanation body = preferred body ↔ ¬ Hides body := by
  refine ⟨fun same hides => ?_, explanation_of_not_hides⟩
  obtain ⟨whole, given⟩ := hides.shown
  have lighter := weight_lt_of_textMember? given
  rw [← same, whole] at lighter
  exact Nat.lt_irrefl _ lighter

/-- **The report prefers the explanation that the body itself gives.** The explanation is the member
`error` of the body if that is a text, otherwise the member `message` if that is a text, otherwise
the body without the blanks at its ends; it stands in parentheses unless it is empty. The report is
this one if and only if no member `error` that is no text hides a text under `message`, and where
one does so, the report gives the body instead. -/
theorem preferred_reported_iff (url : String) (status : Nat) (body : String) :
    (statusReport url status body =
        "GET " ++ url ++ " returned HTTP " ++ Numeral.text status ++
          (if preferred body = "" then "" else " (" ++ preferred body ++ ")") ↔
      ¬ Hides body) ∧
    (Hides body → statusReport url status body =
      "GET " ++ url ++ " returned HTTP " ++ Numeral.text status ++
        (" (" ++ Text.trim body ++ ")")) ∧
    Text.IsTrimmed body (Text.trim body) := by
  refine ⟨?_, fun hides => ?_, Text.isTrimmed_trim body⟩
  · rw [← explanation_eq_preferred_iff, statusReport_eq]
    exact report_inj
  · obtain ⟨whole, given⟩ := hides.shown
    have visible : Text.trim body ≠ "" := by
      intro empty
      have lighter := weight_lt_of_textMember? given
      rw [empty] at lighter
      exact Nat.not_lt_zero _ lighter
    rw [statusReport_eq, whole, report, if_neg visible]

/-- A member `error` that is null hides the text under `message`. -/
theorem message_hidden_by_null :
    let body := "\x7b\"error\":null,\"message\":\"bad span\"\x7d"
    preferred body = "bad span" ∧
    statusReport "/tracez/get/running/x" 400 body =
      "GET /tracez/get/running/x returned HTTP 400 (" ++ body ++ ")" ∧
    statusReport "/tracez/get/running/x" 400 body ≠
      "GET /tracez/get/running/x returned HTTP 400 (bad span)" := by
  decide +kernel

end Response

end SpanDashboard
