import Mathlib.Algebra.Ring.Nat
import Mathlib.Data.List.TakeWhile
import SpanDashboard.Json.Printer
import SpanDashboard.Proofs.Values

/-!
# The tokens of a printed value

A printed value is cut into the tokens of the value (`cutsInto_chars`), whatever white space the
layout puts between them. This holds in front of any text that does not go on with the last word, so
the printed parts of a container are cut one after the other.
-/

set_option autoImplicit false

namespace SpanDashboard

namespace Numeral

/-- Only the numeral of zero begins with a zero. -/
theorem eq_zero_of_ofNat_eq_cons {n : Nat} {rest : List Char} (written : ofNat n = '0' :: rest) :
    n = 0 := by
  induction n using Nat.strongRecOn generalizing rest with
  | ind n ih =>
    by_cases single : n < 10
    · rw [ofNat, Nat.toDigits_of_lt_base single] at written
      have digit := (List.cons.inj written).1
      clear ih written
      revert n
      decide
    · rw [ofNat, Nat.toDigits_of_base_le (by decide) (by omega)] at written
      obtain ⟨first, others, shorter⟩ := List.exists_cons_of_ne_nil (ofNat_ne_nil (n / 10))
      rw [show Nat.toDigits 10 (n / 10) = first :: others from shorter] at written
      obtain rfl : first = '0' := (List.cons.inj written).1
      have zero := ih (n / 10) (by omega) shorter
      omega

theorem digit_or_minus_of_mem_ofInt {n : Int} {c : Char} (member : c ∈ ofInt n) :
    c.isDigit = true ∨ c = '-' := by
  cases n with
  | ofNat n => exact .inl (isDigit_of_mem_ofNat member)
  | negSucc n =>
    rcases List.mem_cons.1 member with rfl | digit
    · exact .inr rfl
    · exact .inl (isDigit_of_mem_ofNat digit)

end Numeral

namespace Json

/-! ## Whole numbers -/

namespace Literal

theorem digits_ofNat (n : Nat) : digits (Numeral.ofNat n) = (Numeral.ofNat n, []) := by
  have all : ∀ c ∈ Numeral.ofNat n, c.isDigit = true := fun _ => Numeral.isDigit_of_mem_ofNat
  rw [digits, List.takeWhile_eq_self_iff.2 all, List.dropWhile_eq_nil_iff.2 all]

theorem readWhole?_ofNat (n : Nat) :
    readWhole? (Numeral.ofNat n) = some (Numeral.ofNat n, []) := by
  rw [readWhole?, digits_ofNat]
  split
  case h_1 rest empty => exact absurd (Prod.mk.inj empty).1 (Numeral.ofNat_ne_nil n)
  case h_2 rest zero => rw [(Prod.mk.inj zero).1, (Prod.mk.inj zero).2]
  case h_3 others rest longer led =>
    have written := (Prod.mk.inj led).1
    have zero := Numeral.eq_zero_of_ofNat_eq_cons written
    rw [zero] at written
    obtain rfl : [] = others := (List.cons.inj written).2
    exact absurd rfl longer
  case h_4 whole rest _ _ _ same => rw [(Prod.mk.inj same).1, (Prod.mk.inj same).2]

/-- A numeral is a literal without any of the other parts. -/
theorem read?_ofNat (n : Nat) :
    read? (Numeral.ofNat n) = some ⟨false, Numeral.ofNat n, none, none⟩ := by
  -- With this at hand, `simp` decides whether the numeral begins with a sign.
  have unsigned : ∀ rest, Numeral.ofNat n ≠ '-' :: rest := by
    intro rest written
    have digit : '-'.isDigit = true :=
      Numeral.isDigit_of_mem_ofNat (written ▸ List.mem_cons_self)
    exact absurd digit (by decide)
  simp only [read?, readWhole?_ofNat, Option.bind_eq_bind, Option.bind_some]
  rfl

theorem read?_neg_ofNat (n : Nat) :
    read? ('-' :: Numeral.ofNat n) = some ⟨true, Numeral.ofNat n, none, none⟩ := by
  simp only [read?, readWhole?_ofNat, Option.bind_eq_bind, Option.bind_some]
  rfl

theorem value?_nonneg {n : Nat} (small : n < 2 ^ 64) :
    value? ⟨false, Numeral.ofNat n, none, none⟩ = some (.int n) := by
  have fits : n < UInt64.size := small
  simp only [value?, isPlain, Numeral.value_ofNat, fits]
  rfl

theorem value?_neg {n : Nat} (pos : 0 < n) (small : n ≤ 2 ^ 63) :
    value? ⟨true, Numeral.ofNat n, none, none⟩ = some (.int (-n)) := by
  have fits : n ≤ Nat.pow 2 63 := small
  simp only [value?, isPlain, Numeral.value_ofNat, pos, fits]
  rfl

end Literal

/-- A whole number that fits in 64 bits is read as it is written. -/
theorem wordToken?_ofInt {n : Int} (low : -2 ^ 63 ≤ n) (high : n < 2 ^ 64) :
    wordToken? (Numeral.ofInt n) = some (.scalar (.int n)) := by
  have other {word : List Char} (letter : ∃ c ∈ word, ¬ (c.isDigit = true ∨ c = '-')) :
      Numeral.ofInt n ≠ word := by
    rintro rfl
    obtain ⟨c, member, not_digit⟩ := letter
    exact not_digit (Numeral.digit_or_minus_of_mem_ofInt member)
  have no_null : Numeral.ofInt n ≠ ['n', 'u', 'l', 'l'] :=
    other ⟨'n', List.mem_cons_self, by decide⟩
  have no_true : Numeral.ofInt n ≠ ['t', 'r', 'u', 'e'] :=
    other ⟨'t', List.mem_cons_self, by decide⟩
  have no_false : Numeral.ofInt n ≠ ['f', 'a', 'l', 's', 'e'] :=
    other ⟨'f', List.mem_cons_self, by decide⟩
  rw [wordToken?, if_neg no_null, if_neg no_true, if_neg no_false]
  cases n with
  | ofNat n =>
    have small : n < 2 ^ 64 := Int.ofNat_lt.1 high
    rw [Numeral.ofInt, Literal.read?_ofNat, Option.bind_some, Literal.value?_nonneg small]
    rfl
  | negSucc n =>
    have small : n + 1 ≤ 2 ^ 63 := by
      omega
    rw [Numeral.ofInt, Literal.read?_neg_ofNat, Option.bind_some,
      Literal.value?_neg (by omega) small]
    rfl

/-! ## Strings -/

/-- A part of a string stands for a character, whatever parts come after it. -/
def Piece.StandsFor (p : Piece) (c : Char) : Prop :=
  ∀ later, Piece.join? (p :: later) = (Piece.join? later).map (c :: ·)

theorem Piece.standsFor_char (c : Char) : (char c).StandsFor c := by
  intro later
  rfl

/-- A unit that is no half of a character stands for the character with its number. -/
theorem Piece.standsFor_unit {n : Nat} (high : isHighSurrogate n = false)
    (low : isLowSurrogate n = false) : (unit n).StandsFor (Char.ofNat n) := by
  intro later
  cases later with
  | nil => simp [join?, high, low]
  | cons next later =>
    cases next with
    | char c => simp [join?, high, low]
    | unit m => simp [join?, high, low]

namespace Scan

theorem run_cons {state next : Scan} {c : Char} {ts : List Token}
    (step : state.step c = some (ts, next)) (rest : List Char) :
    state.run (c :: rest) = (next.run rest).map (ts ++ ·) := by
  rw [run, step]
  cases after : next.run rest <;> simp [after]

/-- A character that completes no token leaves the rest to be read. -/
theorem run_of_step {state next : Scan} {c : Char} (step : state.step c = some ([], next))
    (rest : List Char) : state.run (c :: rest) = next.run rest := by
  rw [run_cons step]
  exact Option.map_id'

theorem step_unit {before : List Piece} {value n : Nat} (small : n < 16) (missing : Nat) :
    (unit before value (missing + 1)).step (Hex.lower n) =
      some ([], unit before (16 * value + n) missing) := by
  simp [step, Hex.value?_lower small]

theorem step_unit_last {before : List Piece} {value n : Nat} (small : n < 16) :
    (unit before value 0).step (Hex.lower n) =
      some ([], string (.unit (16 * value + n) :: before)) := by
  simp [step, Hex.value?_lower small]

/-- A control character is read by its number. -/
theorem run_control {n : Nat} (small : n < 0x20) (before : List Piece) (rest : List Char) :
    (string before).run
        (['\\', 'u', '0', '0', Hex.lower (n / 16), Hex.lower (n % 16)] ++ rest) =
      (string (.unit n :: before)).run rest := by
  have zero : '0' = Hex.lower 0 := rfl
  have digits : 16 * (16 * (16 * (16 * 0 + 0) + 0) + n / 16) + n % 16 = n := by
    omega
  simp only [List.cons_append, List.nil_append]
  rw [run_of_step rfl, run_of_step rfl, zero, run_of_step (step_unit (by omega) 2),
    run_of_step (step_unit (by omega) 1), run_of_step (step_unit (by omega) 0),
    run_of_step (step_unit_last (by omega)), digits]

/-- A character that needs no escape is read as itself. -/
theorem run_plain {c : Char} (quote : c ≠ '"') (backslash : c ≠ '\\') (large : ¬ c.toNat < 0x20)
    (before : List Piece) (rest : List Char) :
    (string before).run (c :: rest) = (string (.char c :: before)).run rest := by
  apply run_of_step
  rw [step, inString, if_neg large]
  · exact quote
  · exact backslash

/-- A printed character is read as a part of its string. -/
theorem run_printedChar (c : Char) :
    ∃ p : Piece, p.StandsFor c ∧ ∀ before rest,
      (string before).run (printedChar c ++ rest) = (string (p :: before)).run rest := by
  unfold printedChar
  split
  case h_8 quote backslash _ _ _ _ _ =>
    by_cases small : c.toNat < 0x20
    · have high : isHighSurrogate c.toNat = false := by
        simp [isHighSurrogate]
        omega
      have low : isLowSurrogate c.toNat = false := by
        simp [isLowSurrogate]
        omega
      have stands := Piece.standsFor_unit high low
      rw [Char.ofNat_toNat] at stands
      rw [if_pos small]
      exact ⟨.unit c.toNat, stands, run_control small⟩
    · rw [if_neg small]
      exact ⟨.char c, Piece.standsFor_char c, run_plain quote backslash small⟩
  -- What is left are the characters with an escape of two characters.
  all_goals
    refine ⟨_, Piece.standsFor_char _, fun before rest => ?_⟩
    exact (run_of_step rfl _).trans (run_of_step rfl _)

theorem run_printedChars (cs : List Char) :
    ∃ ps, Piece.join? ps = some cs ∧ ∀ before rest,
      (string before).run (cs.flatMap printedChar ++ rest) =
        (string (ps.reverse ++ before)).run rest := by
  induction cs with
  | nil => exact ⟨[], rfl, fun _ _ => rfl⟩
  | cons c cs ih =>
    obtain ⟨p, stands, first⟩ := run_printedChar c
    obtain ⟨ps, joined, others⟩ := ih
    refine ⟨p :: ps, ?_, fun before rest => ?_⟩
    · rw [stands, joined, Option.map_some]
    · rw [List.flatMap_cons, List.append_assoc, first, others, List.reverse_cons,
        List.append_assoc, List.singleton_append]

/-- The rest of a text goes on without a character that would belong to the word before it. -/
def EndsWord (rest : List Char) : Prop :=
  ∀ c ∈ rest.head?, isWordChar c = false

/-- A text is cut into some tokens, whatever follows that does not go on with its last word. -/
def CutsInto (text : List Char) (ts : List Token) : Prop :=
  ∀ rest, EndsWord rest → between.run (text ++ rest) = (between.run rest).map (ts ++ ·)

theorem cutsInto_nil : CutsInto [] [] := by
  intro rest _
  simp

/-- One text is cut after the other if the second one begins with a token of its own. -/
theorem CutsInto.append {first second : List Char} {ts us : List Token} (cut : CutsInto first ts)
    (more : CutsInto second us) (apart : ∀ rest, EndsWord rest → EndsWord (second ++ rest)) :
    CutsInto (first ++ second) (ts ++ us) := by
  intro rest ended
  rw [List.append_assoc, cut _ (apart rest ended), more rest ended, Option.map_map]
  congr 1
  funext later
  exact (List.append_assoc ts us later).symm

/-- A sign is a token by itself. -/
theorem CutsInto.sign {c : Char} {ts us : List Token} {text : List Char}
    (sign : start c = some (ts, between)) (more : CutsInto text us) :
    CutsInto (c :: text) (ts ++ us) := by
  intro rest ended
  have step : between.step c = some (ts, between) := sign
  rw [List.cons_append, run_cons step, more rest ended, Option.map_map]
  congr 1
  funext later
  exact (List.append_assoc ts us later).symm

theorem start_space {c : Char} (space : isSpace c = true) : start c = some ([], between) := by
  simp only [isSpace, Bool.or_eq_true, beq_iff_eq] at space
  rcases space with ((rfl | rfl) | rfl) | rfl <;> rfl

/-- White space is no token. -/
theorem CutsInto.spaces {spaces text : List Char} {ts : List Token}
    (blank : ∀ c ∈ spaces, isSpace c = true) (cut : CutsInto text ts) :
    CutsInto (spaces ++ text) ts := by
  induction spaces with
  | nil => exact cut
  | cons c spaces ih =>
    obtain ⟨first, others⟩ := List.forall_mem_cons.1 blank
    exact CutsInto.sign (start_space first) (ih others)

theorem cutsInto_printedString (s : String) : CutsInto (printedString s) [.string s] := by
  intro rest _
  obtain ⟨ps, joined, read⟩ := run_printedChars s.toList
  have step : (string (ps.reverse ++ [])).step '"' = some ([.string s], between) := by
    rw [List.append_nil]
    show (Piece.join? ps.reverse.reverse).map _ = _
    rw [List.reverse_reverse, joined, Option.map_some, String.ofList_toList]
  have opened : between.step '"' = some ([], string []) := rfl
  rw [printedString, List.cons_append, List.cons_append, List.append_assoc, run_of_step opened,
    read, List.singleton_append, run_cons step]

/-! ## Words -/

theorem isWordChar_of_isSpace {c : Char} (space : isSpace c = true) : isWordChar c = false := by
  simp only [isSpace, Bool.or_eq_true, beq_iff_eq] at space
  rcases space with ((rfl | rfl) | rfl) | rfl <;> rfl

/-- White space ends a word as well. -/
theorem EndsWord.spaces {spaces rest : List Char} (blank : ∀ c ∈ spaces, isSpace c = true)
    (ended : EndsWord rest) : EndsWord (spaces ++ rest) := by
  cases spaces with
  | nil => exact ended
  | cons c others =>
    rintro _ ⟨⟩
    exact isWordChar_of_isSpace (blank c List.mem_cons_self)

theorem start_word {c : Char} (letter : isWordChar c = true) : start c = some ([], word [c]) := by
  have unspaced : isSpace c = false := by
    by_contra space
    rw [isWordChar_of_isSpace (by simpa using space)] at letter
    cases letter
  unfold start
  split
  case h_8 => simp [unspaced, letter]
  all_goals exact absurd letter (by decide)

theorem run_word {letters : List Char} (all : ∀ c ∈ letters, isWordChar c = true)
    (before rest : List Char) :
    (word before).run (letters ++ rest) = (word (letters.reverse ++ before)).run rest := by
  induction letters generalizing before with
  | nil => rfl
  | cons c letters ih =>
    obtain ⟨first, others⟩ := List.forall_mem_cons.1 all
    have step : (word before).step c = some ([], word (c :: before)) := by
      rw [Scan.step, if_pos first]
    rw [List.cons_append, run_of_step step, ih others, List.reverse_cons, List.append_assoc,
      List.singleton_append]

theorem run_word_end {before : List Char} {t : Token} (token : wordToken? before.reverse = some t)
    {rest : List Char} (ended : EndsWord rest) :
    (word before).run rest = (between.run rest).map (t :: ·) := by
  cases rest with
  | nil => simp [run, finish, token]
  | cons c rest =>
    have other : isWordChar c = false := ended c rfl
    have step : (word before).step c =
        (start c).map fun out => (t :: out.1, out.2) := by
      rw [Scan.step, token]
      cases start c <;> simp [other]
    cases next : start c with
    | none =>
      rw [next] at step
      have idle : between.step c = none := next
      rw [run, run, step, idle]
      rfl
    | some out =>
      rw [next, Option.map_some] at step
      rw [run_cons step, run_cons (show between.step c = some (out.1, out.2) from next),
        Option.map_map]
      rfl

theorem cutsInto_word {letters : List Char} (nonempty : letters ≠ [])
    (all : letters.all isWordChar = true) {t : Token} (token : wordToken? letters = some t) :
    CutsInto letters [t] := by
  intro rest ended
  obtain ⟨c, others, rfl⟩ := List.exists_cons_of_ne_nil nonempty
  obtain ⟨first, later⟩ := List.forall_mem_cons.1 (List.all_eq_true.1 all)
  have complete : (word (others.reverse ++ [c])).run rest = (between.run rest).map (t :: ·) :=
    run_word_end (by simpa using token) ended
  have begun : between.step c = some ([], word [c]) := start_word first
  rw [List.cons_append, run_of_step begun, run_word later, complete]
  rfl

theorem cutsInto_ofInt {n : Int} (low : -2 ^ 63 ≤ n) (high : n < 2 ^ 64) :
    CutsInto (Numeral.ofInt n) [.scalar (.int n)] := by
  have nonempty : Numeral.ofInt n ≠ [] := by
    cases n with
    | ofNat n => exact Numeral.ofNat_ne_nil n
    | negSucc n => exact List.cons_ne_nil _ _
  refine cutsInto_word nonempty (List.all_eq_true.2 fun c member => ?_) (wordToken?_ofInt low high)
  rcases Numeral.digit_or_minus_of_mem_ofInt member with digit | rfl
  · simp [isWordChar, Char.isAlphanum, digit]
  · rfl

end Scan

/-! ## Values -/

/-- A layout puts nothing but white space between tokens. -/
structure Layout.IsBlank (layout : Layout) : Prop where
  line : ∀ depth, ∀ c ∈ layout.line depth, isSpace c = true
  gap : ∀ c ∈ layout.gap, isSpace c = true

theorem Layout.compact_isBlank : Layout.compact.IsBlank where
  line _ _ member := by cases member
  gap _ member := by cases member

mutual
/-- The tokens of a value. -/
def tokens : Json → List Token
  | .string s => [.string s]
  | .array [] => [.arrayOpen, .arrayClose]
  | .array (first :: rest) => .arrayOpen :: (first.tokens ++ (itemTokens rest ++ [.arrayClose]))
  | .object [] => [.objectOpen, .objectClose]
  | .object ((key, value) :: rest) =>
    .objectOpen :: .string key :: .colon ::
      (value.tokens ++ (memberTokens rest ++ [.objectClose]))
  | scalar => [.scalar scalar]
termination_by structural value => value
/-- The tokens of the items after the first one. -/
def itemTokens : List Json → List Token
  | [] => []
  | value :: rest => .comma :: (value.tokens ++ itemTokens rest)
termination_by structural values => values
/-- The tokens of the members after the first one. -/
def memberTokens : List (String × Json) → List Token
  | [] => []
  | (key, value) :: rest =>
    .comma :: .string key :: .colon :: (value.tokens ++ memberTokens rest)
termination_by structural members => members
end

section Printed

variable {layout : Layout}

theorem endsWord_itemChars {depth : Nat} {items : List Json} {rest : List Char}
    (ended : Scan.EndsWord rest) : Scan.EndsWord (itemChars layout depth items ++ rest) := by
  cases items with
  | nil => exact ended
  | cons v items =>
    rintro _ ⟨⟩
    rfl

theorem endsWord_memberChars {depth : Nat} {members : List (String × Json)} {rest : List Char}
    (ended : Scan.EndsWord rest) : Scan.EndsWord (memberChars layout depth members ++ rest) := by
  cases members with
  | nil => exact ended
  | cons m members =>
    rintro _ ⟨⟩
    rfl

theorem cutsInto_itemChars (blank : layout.IsBlank) {depth : Nat} {items : List Json}
    (each : ∀ v ∈ items, Scan.CutsInto (v.chars layout depth) v.tokens) :
    Scan.CutsInto (itemChars layout depth items) (itemTokens items) := by
  have comma : Scan.start ',' = some ([.comma], .between) := rfl
  induction items with
  | nil => exact Scan.cutsInto_nil
  | cons v rest ih =>
    obtain ⟨first, others⟩ := List.forall_mem_cons.1 each
    have item := first.append (ih others) fun _ => endsWord_itemChars
    simp only [itemChars, itemTokens, List.cons_append, List.append_assoc]
    exact .sign comma (.spaces (blank.line depth) item)

/-- A key and its value, in front of what comes after them. -/
theorem cutsInto_member (blank : layout.IsBlank) (key : String) {text : List Char}
    {ts : List Token} (value : Scan.CutsInto text ts) :
    Scan.CutsInto (printedString key ++ ':' :: (layout.gap ++ text))
      (.string key :: .colon :: ts) := by
  have colon : Scan.start ':' = some ([.colon], .between) := rfl
  have after : Scan.CutsInto (':' :: (layout.gap ++ text)) ([.colon] ++ ts) :=
    .sign colon (.spaces blank.gap value)
  refine (Scan.cutsInto_printedString key).append after ?_
  rintro rest - _ ⟨⟩
  rfl

theorem cutsInto_memberChars (blank : layout.IsBlank) {depth : Nat}
    {members : List (String × Json)}
    (each : ∀ m ∈ members, Scan.CutsInto (m.2.chars layout depth) m.2.tokens) :
    Scan.CutsInto (memberChars layout depth members) (memberTokens members) := by
  have comma : Scan.start ',' = some ([.comma], .between) := rfl
  induction members with
  | nil => exact Scan.cutsInto_nil
  | cons m rest ih =>
    obtain ⟨first, others⟩ := List.forall_mem_cons.1 each
    have value := first.append (ih others) fun _ => endsWord_memberChars
    simp only [memberChars, memberTokens, List.cons_append, List.append_assoc]
    exact .sign comma (.spaces (blank.line depth) (cutsInto_member blank m.1 value))

/-- A container is cut between its two signs, each on a line of its own. -/
theorem cutsInto_container (blank : layout.IsBlank) (depth : Nat) {opening closing : Char}
    {o c : Token} (opens : Scan.start opening = some ([o], .between))
    (closes : Scan.start closing = some ([c], .between)) (apart : isWordChar closing = false)
    {first others : List Char} {ts us : List Token} (head : Scan.CutsInto first ts)
    (tail : Scan.CutsInto others us)
    (separate : ∀ rest, Scan.EndsWord rest → Scan.EndsWord (others ++ rest)) :
    Scan.CutsInto
      (opening :: (layout.line (depth + 1) ++
        (first ++ (others ++ (layout.line depth ++ [closing])))))
      (o :: (ts ++ (us ++ [c]))) := by
  have close : Scan.CutsInto (layout.line depth ++ [closing]) [c] :=
    .spaces (blank.line depth) (.sign closes Scan.cutsInto_nil)
  have ended (rest : List Char) : Scan.EndsWord (layout.line depth ++ [closing] ++ rest) := by
    rw [List.append_assoc]
    apply Scan.EndsWord.spaces (blank.line depth)
    rintro _ ⟨⟩
    exact apart
  have inside := head.append (tail.append close fun rest _ => ended rest) fun rest _ => by
    rw [List.append_assoc]
    exact separate _ (ended rest)
  exact .sign opens (.spaces (blank.line (depth + 1)) inside)

/-- A printed value is cut into its tokens. -/
theorem cutsInto_chars (blank : layout.IsBlank) {value : Json} (whole : value.Whole)
    (depth : Nat) : Scan.CutsInto (value.chars layout depth) value.tokens := by
  induction value using Json.induction generalizing depth with
  | null =>
    show Scan.CutsInto ['n', 'u', 'l', 'l'] [.scalar .null]
    exact Scan.cutsInto_word (by simp) rfl rfl
  | bool b =>
    cases b with
    | true =>
      show Scan.CutsInto ['t', 'r', 'u', 'e'] [.scalar (.bool true)]
      exact Scan.cutsInto_word (by simp) rfl rfl
    | false =>
      show Scan.CutsInto ['f', 'a', 'l', 's', 'e'] [.scalar (.bool false)]
      exact Scan.cutsInto_word (by simp) rfl rfl
  | int n =>
    cases whole with
    | int low high => exact Scan.cutsInto_ofInt low high
  | double x => cases whole
  | string s => exact Scan.cutsInto_printedString s
  | array items ih =>
    have opening : Scan.start '[' = some ([.arrayOpen], .between) := rfl
    have closing : Scan.start ']' = some ([.arrayClose], .between) := rfl
    cases whole with
    | array each =>
      cases items with
      | nil => exact .sign opening (.sign closing Scan.cutsInto_nil)
      | cons first rest =>
        have all (v) (member : v ∈ first :: rest) := ih v member (each v member) (depth + 1)
        have head := all first List.mem_cons_self
        have tail := cutsInto_itemChars blank fun v member =>
          all v (List.mem_cons_of_mem first member)
        simp only [chars, tokens, List.cons_append, List.append_assoc]
        exact cutsInto_container blank depth opening closing rfl head tail
          fun _ => endsWord_itemChars
  | object members ih =>
    have opening : Scan.start '\x7b' = some ([.objectOpen], .between) := rfl
    have closing : Scan.start '\x7d' = some ([.objectClose], .between) := rfl
    cases whole with
    | object each =>
      cases members with
      | nil => exact .sign opening (.sign closing Scan.cutsInto_nil)
      | cons first rest =>
        have all (m) (member : m ∈ first :: rest) := ih m member (each m member) (depth + 1)
        have head := cutsInto_member blank first.1 (all first List.mem_cons_self)
        have tail := cutsInto_memberChars blank fun m member =>
          all m (List.mem_cons_of_mem first member)
        have whole := cutsInto_container blank depth opening closing rfl head tail
          fun _ => endsWord_memberChars
        simpa only [chars, tokens, List.cons_append, List.append_assoc] using whole

end Printed

/-- The tokens of the text of a value are the tokens of the value. -/
theorem tokens?_chars {layout : Layout} (blank : layout.IsBlank) {value : Json}
    (whole : value.Whole) (depth : Nat) :
    tokens? (String.ofList (value.chars layout depth)) = some value.tokens := by
  have cut := cutsInto_chars blank whole depth [] (by rintro _ ⟨⟩)
  rw [List.append_nil] at cut
  rw [tokens?, String.toList_ofList, cut]
  show some (value.tokens ++ []) = _
  rw [List.append_nil]

end Json

end SpanDashboard
