import Mathlib.Data.List.Chain
import SpanDashboard.Proofs.Building

/-!
# Documents as they are written

A document is the tree of what is written in a JSON text, the white space aside: every word and
every string is kept as it is spelled, and the members of an object are in the order of the text. A
text of a document has its lexemes in order with any white space around them (`Spaced`). White space
leaves no trace in what is read: every text of a document is read as the canonical form of the value
of the document, unless this nests too deep for the reader (`Document.parse?_of_isWritten`).
-/

set_option autoImplicit false

namespace SpanDashboard.Json

/-- A word as it is spelled: `null`, `true`, `false`, a number, or one that stands for nothing. -/
structure Word where
  chars : List Char
  nonempty : chars ≠ []
  letters : chars.all isWordChar = true

/-- What can stand between quotation marks: a text without any, unless after a backslash. -/
inductive IsBody : List Char → Prop where
  | nil : IsBody []
  | plain {c : Char} {rest : List Char} (quote : c ≠ '"') (backslash : c ≠ '\\')
      (body : IsBody rest) : IsBody (c :: rest)
  | escape (c : Char) {rest : List Char} (body : IsBody rest) : IsBody ('\\' :: c :: rest)

/-- A string as it is spelled. -/
structure Spelling where
  body : List Char
  isBody : IsBody body

/-- A document as it is written, without the white space. -/
inductive Document where
  | word (w : Word)
  | string (s : Spelling)
  | array (items : List Document)
  | object (members : List (Spelling × Document))

/-- A token as it is written. -/
inductive Lexeme where
  | arrayOpen
  | arrayClose
  | objectOpen
  | objectClose
  | comma
  | colon
  | word (w : Word)
  | string (s : Spelling)

/-- A string with its quotation marks. -/
def Spelling.chars (s : Spelling) : List Char :=
  '"' :: s.body ++ ['"']

/-- The characters of a lexeme. -/
def Lexeme.chars : Lexeme → List Char
  | arrayOpen => ['[']
  | arrayClose => [']']
  | objectOpen => ['\x7b']
  | objectClose => ['\x7d']
  | comma => [',']
  | colon => [':']
  | word w => w.chars
  | string s => s.chars

/-- A text has some lexemes in order, with white space or nothing before, between and after them. -/
inductive Spaced : List Lexeme → List Char → Prop where
  | nil {gap : List Char} (blank : ∀ c ∈ gap, isSpace c = true) : Spaced [] gap
  | cons {gap : List Char} {l : Lexeme} {ls : List Lexeme} {text : List Char}
      (blank : ∀ c ∈ gap, isSpace c = true) (later : Spaced ls text) :
      Spaced (l :: ls) (gap ++ (l.chars ++ text))

mutual
/-- The lexemes of a document. -/
def Document.lexemes : Document → List Lexeme
  | .word w => [.word w]
  | .string s => [.string s]
  | .array [] => [.arrayOpen, .arrayClose]
  | .array (first :: rest) =>
    .arrayOpen :: (first.lexemes ++ (itemLexemes rest ++ [.arrayClose]))
  | .object [] => [.objectOpen, .objectClose]
  | .object ((key, value) :: rest) =>
    .objectOpen :: .string key :: .colon ::
      (value.lexemes ++ (memberLexemes rest ++ [.objectClose]))
termination_by structural d => d
/-- The lexemes of the items after the first one. -/
def itemLexemes : List Document → List Lexeme
  | [] => []
  | d :: rest => .comma :: (d.lexemes ++ itemLexemes rest)
termination_by structural ds => ds
/-- The lexemes of the members after the first one. -/
def memberLexemes : List (Spelling × Document) → List Lexeme
  | [] => []
  | (key, value) :: rest =>
    .comma :: .string key :: .colon :: (value.lexemes ++ memberLexemes rest)
termination_by structural ms => ms
end

/-- A text of a document. -/
def Document.IsWritten (d : Document) (text : String) : Prop :=
  Spaced d.lexemes text.toList

/-- The string that a spelling stands for, if it stands for any. -/
def Spelling.text? (s : Spelling) : Option String :=
  match tokens? (String.ofList s.chars) with
  | some [.string t] => some t
  | _ => none

/-- The value that a word stands for, if it stands for any. -/
def Word.value? (w : Word) : Option Json :=
  match wordToken? w.chars with
  | some (.scalar v) => some v
  | _ => none

mutual
/-- The value of a document, with its members as they are written; there is none if one of the words
or strings stands for nothing. -/
def Document.value? : Document → Option Json
  | .word w => w.value?
  | .string s => s.text?.map .string
  | .array items => (itemValues? items).map .array
  | .object members => (memberValues? members).map .object
termination_by structural d => d
/-- The values of some documents. -/
def itemValues? : List Document → Option (List Json)
  | [] => some []
  | d :: rest => do
    let v ← d.value?
    let vs ← itemValues? rest
    some (v :: vs)
termination_by structural ds => ds
/-- The keys and values of some members. -/
def memberValues? : List (Spelling × Document) → Option (List (String × Json))
  | [] => some []
  | (key, value) :: rest => do
    let k ← key.text?
    let v ← value.value?
    let ms ← memberValues? rest
    some ((k, v) :: ms)
termination_by structural ms => ms
end

/-- What holds of a document as soon as it holds of everything in it holds of every document. -/
@[elab_as_elim]
theorem Document.induction {P : Document → Prop} (word : ∀ w, P (.word w))
    (string : ∀ s, P (.string s)) (array : ∀ items, (∀ d ∈ items, P d) → P (.array items))
    (object : ∀ members, (∀ m ∈ members, P m.2) → P (.object members)) (d : Document) : P d :=
  match d with
  | .word w => word w
  | .string s => string s
  | .array items => array items fun d _ => induction word string array object d
  | .object members => object members fun m _ => induction word string array object m.2
termination_by sizeOf d
decreasing_by
  · have := List.sizeOf_lt_of_mem ‹d ∈ items›
    simp only [Document.array.sizeOf_spec]
    omega
  · have := List.sizeOf_lt_of_mem ‹m ∈ members›
    have : sizeOf m.2 < sizeOf m := by
      obtain ⟨key, value⟩ := m
      show sizeOf value < sizeOf (key, value)
      rw [Prod.mk.sizeOf_spec]
      omega
    simp only [Document.object.sizeOf_spec]
    omega

/-! ## From the text to the tokens -/

/-- The token that a lexeme stands for, if it stands for any. -/
def Lexeme.token? : Lexeme → Option Token
  | arrayOpen => some .arrayOpen
  | arrayClose => some .arrayClose
  | objectOpen => some .objectOpen
  | objectClose => some .objectClose
  | comma => some .comma
  | colon => some .colon
  | word w => wordToken? w.chars
  | string s => s.text?.map .string

namespace Scan

/-- A scan that is inside of a string. -/
def IsInside : Scan → Prop
  | string _ | unit _ _ _ => True
  | between | word _ | escape _ => False

theorem run_of_step_none {state : Scan} {c : Char} (step : state.step c = none)
    (rest : List Char) : state.run (c :: rest) = none := by
  rw [run, step]
  rfl

/-- A character that is neither a quotation mark nor a backslash does not lead out of a string. -/
theorem step_inside {state next : Scan} {c : Char} {ts : List Token} (inside : state.IsInside)
    (quote : c ≠ '"') (backslash : c ≠ '\\') (step : state.step c = some (ts, next)) :
    ts = [] ∧ next.IsInside := by
  cases state with
  | string before =>
    rw [Scan.step, inString] at step
    · obtain ⟨-, same⟩ := Option.ite_none_left_eq_some.1 step
      obtain ⟨rfl, rfl⟩ := Prod.mk.inj (Option.some.inj same)
      exact ⟨rfl, trivial⟩
    · exact quote
    · exact backslash
  | unit before value missing =>
    obtain ⟨digit, -, more⟩ := Option.bind_eq_some_iff.1 step
    cases missing with
    | zero =>
      obtain ⟨rfl, rfl⟩ := Prod.mk.inj (Option.some.inj more)
      exact ⟨rfl, trivial⟩
    | succ missing =>
      obtain ⟨rfl, rfl⟩ := Prod.mk.inj (Option.some.inj more)
      exact ⟨rfl, trivial⟩
  | between => exact inside.elim
  | word before => exact inside.elim
  | escape before => exact inside.elim

/-- A backslash and the character after it do not lead out of a string. -/
theorem run_escape {state : Scan} (inside : state.IsInside) (c : Char) :
    (∀ rest, state.run ('\\' :: c :: rest) = none) ∨
      ∃ next : Scan, next.IsInside ∧ ∀ rest, state.run ('\\' :: c :: rest) = next.run rest := by
  cases state with
  | string before =>
    have begun : (string before).step '\\' = some ([], escape before) := rfl
    by_cases number : c = 'u'
    · subst number
      exact .inr ⟨unit before 0 3, trivial, fun rest => by rw [run_of_step begun, run_of_step rfl]⟩
    · have step : (escape before).step c =
          (shortEscape? c).map fun d => ([], string (.char d :: before)) := by
        rw [Scan.step, if_neg number]
      cases short : shortEscape? c with
      | none =>
        rw [short] at step
        exact .inl fun rest => by rw [run_of_step begun, run_of_step_none step]
      | some d =>
        rw [short] at step
        exact .inr ⟨string (.char d :: before), trivial, fun rest => by
          rw [run_of_step begun, run_of_step step]⟩
  | unit before value missing => exact .inl fun rest => run_of_step_none rfl _
  | between => exact inside.elim
  | word before => exact inside.elim
  | escape before => exact inside.elim

/-- What a string stands for does not depend on what comes after it. -/
theorem exists_run_body {body : List Char} (isBody : IsBody body) {state : Scan}
    (inside : state.IsInside) :
    ∃ s? : Option String, ∀ rest, state.run (body ++ '"' :: rest) =
      s?.bind fun s => (between.run rest).map (Token.string s :: ·) := by
  induction isBody generalizing state with
  | nil =>
    cases state with
    | string before =>
      refine ⟨(Piece.join? before.reverse).map String.ofList, fun rest => ?_⟩
      have step : (string before).step '"' =
          (Piece.join? before.reverse).map fun cs => ([.string (String.ofList cs)], between) := rfl
      cases joined : Piece.join? before.reverse with
      | none =>
        rw [joined] at step
        exact run_of_step_none step rest
      | some cs =>
        rw [joined] at step
        exact run_cons step rest
    | unit before value missing => exact ⟨none, fun rest => run_of_step_none rfl rest⟩
    | between => exact inside.elim
    | word before => exact inside.elim
    | escape before => exact inside.elim
  | @plain c body quote backslash _ ih =>
    cases step : state.step c with
    | none => exact ⟨none, fun rest => run_of_step_none step _⟩
    | some out =>
      obtain ⟨ts, next⟩ := out
      obtain ⟨rfl, still⟩ := step_inside inside quote backslash step
      obtain ⟨s?, read⟩ := ih still
      exact ⟨s?, fun rest => (run_of_step step _).trans (read rest)⟩
  | @escape c body _ ih =>
    rcases run_escape inside c with failed | ⟨next, still, step⟩
    · exact ⟨none, fun rest => failed _⟩
    · obtain ⟨s?, read⟩ := ih still
      exact ⟨s?, fun rest => (step _).trans (read rest)⟩

/-- A string is cut off as one token, in front of any text. -/
theorem run_spelling (s : Spelling) (rest : List Char) :
    between.run (s.chars ++ rest) =
      s.text?.bind fun t => (between.run rest).map (Token.string t :: ·) := by
  obtain ⟨s?, read⟩ := @exists_run_body _ s.isBody (string []) trivial
  have begun : between.step '"' = some ([], string []) := rfl
  have whole (rest : List Char) : between.run (s.chars ++ rest) =
      s?.bind fun s => (between.run rest).map (Token.string s :: ·) := by
    rw [Spelling.chars, List.cons_append, List.cons_append, List.append_assoc, run_of_step begun]
    exact read rest
  have text : s.text? = s? := by
    have alone := whole []
    rw [List.append_nil] at alone
    rw [Spelling.text?, tokens?, String.toList_ofList, alone]
    cases s? <;> rfl
  rw [text, whole]

theorem run_spaces {gap : List Char} (blank : ∀ c ∈ gap, isSpace c = true) (rest : List Char) :
    between.run (gap ++ rest) = between.run rest := by
  induction gap with
  | nil => rfl
  | cons c gap ih =>
    obtain ⟨first, others⟩ := List.forall_mem_cons.1 blank
    have skipped : between.step c = some ([], between) := start_space first
    rw [List.cons_append, run_of_step skipped, ih others]

/-- A word that stands for nothing cannot be read, however the text goes on. -/
theorem run_word_end_none {before : List Char} (nothing : wordToken? before.reverse = none)
    {rest : List Char} (ended : EndsWord rest) : (word before).run rest = none := by
  cases rest with
  | nil => rw [run, finish, nothing, Option.map_none]
  | cons c rest =>
    have other : isWordChar c = false := ended c rfl
    apply run_of_step_none
    rw [Scan.step, nothing, other]
    rfl

/-- A word is cut off as one token, in front of any text that does not go on with it. -/
theorem run_wordChars (w : Word) {rest : List Char} (ended : EndsWord rest) :
    between.run (w.chars ++ rest) =
      (wordToken? w.chars).bind fun t => (between.run rest).map (t :: ·) := by
  cases token : wordToken? w.chars with
  | some t => exact cutsInto_word w.nonempty w.letters token rest ended
  | none =>
    obtain ⟨c, others, split⟩ := List.exists_cons_of_ne_nil w.nonempty
    have all := List.all_eq_true.1 w.letters
    rw [split] at token all ⊢
    obtain ⟨first, later⟩ := List.forall_mem_cons.1 all
    have begun : between.step c = some ([], word [c]) := start_word first
    rw [List.cons_append, run_of_step begun, run_word later]
    exact run_word_end_none (by simpa using token) ended

end Scan

/-- A lexeme that other letters could lengthen. -/
def Lexeme.IsWord : Lexeme → Prop
  | word _ => True
  | arrayOpen | arrayClose | objectOpen | objectClose | comma | colon | string _ => False

/-- No two words stand side by side. -/
def Apart (ls : List Lexeme) : Prop :=
  ls.IsChain fun l next => l.IsWord → ¬ next.IsWord

namespace Scan

/-- A lexeme is cut off in front of the rest of a text, unless this lengthens it. -/
theorem run_lexeme (l : Lexeme) {rest : List Char} (ended : l.IsWord → EndsWord rest) :
    between.run (l.chars ++ rest) =
      l.token?.bind fun t => (between.run rest).map (t :: ·) := by
  cases l with
  | word w => exact run_wordChars w (ended trivial)
  | string s =>
    rw [Lexeme.chars, run_spelling, Lexeme.token?, Option.bind_map]
    rfl
  | _ => exact @run_cons between between _ [_] rfl rest

/-- A lexeme that is no word does not begin like one. -/
theorem endsWord_lexeme {l : Lexeme} (sign : ¬ l.IsWord) (rest : List Char) :
    EndsWord (l.chars ++ rest) := by
  cases l with
  | word w => exact absurd trivial sign
  | _ =>
    rintro _ ⟨⟩
    rfl

theorem endsWord_spaced {ls : List Lexeme} {text : List Char} (spaced : Spaced ls text)
    (sign : ∀ l ∈ ls.head?, ¬ l.IsWord) : EndsWord text := by
  cases spaced with
  | nil blank =>
    rw [← List.append_nil text]
    exact .spaces blank nofun
  | cons blank later => exact .spaces blank (endsWord_lexeme (sign _ rfl) _)

/-- The lexemes of a text are its tokens, whatever white space is around them. -/
theorem run_spaced {ls : List Lexeme} {text : List Char} (spaced : Spaced ls text)
    (apart : Apart ls) : between.run text = ls.mapM Lexeme.token? := by
  induction spaced with
  | @nil gap blank =>
    rw [← List.append_nil gap, run_spaces blank]
    rfl
  | @cons gap l ls text blank later ih =>
    obtain ⟨next, apart⟩ := List.isChain_cons.1 apart
    have ended : l.IsWord → EndsWord text := fun word =>
      endsWord_spaced later fun m first => next m first word
    rw [run_spaces blank, run_lexeme l ended, ih apart, List.mapM_cons]
    cases l.token? <;> cases ls.mapM Lexeme.token? <;> rfl

end Scan

/-! ## The lexemes of a document -/

/-- Some lexemes may come after a word, and no two of them are words side by side. -/
structure Follow (ls : List Lexeme) : Prop where
  apart : Apart ls
  sign : ∀ l ∈ ls.head?, ¬ l.IsWord

theorem Follow.cons {l : Lexeme} {ls : List Lexeme} (sign : ¬ l.IsWord) (apart : Apart ls) :
    Follow (l :: ls) where
  apart := List.isChain_cons.2 ⟨fun _ _ word => absurd word sign, apart⟩
  sign := by
    rintro _ ⟨⟩
    exact sign

theorem Apart.append {ls ms : List Lexeme} (apart : Apart ls) (follow : Follow ms) :
    Apart (ls ++ ms) :=
  List.IsChain.append apart follow.apart fun _ _ m first _ => follow.sign m first

/-- The items after the first one are set off by signs. -/
theorem follow_itemLexemes {items : List Document} (each : ∀ d ∈ items, Apart d.lexemes) :
    Follow (itemLexemes items ++ [.arrayClose]) := by
  induction items with
  | nil => exact .cons id .nil
  | cons d rest ih =>
    obtain ⟨first, others⟩ := List.forall_mem_cons.1 each
    rw [itemLexemes, List.cons_append, List.append_assoc]
    exact .cons id (first.append (ih others))

/-- So are the members after the first one. -/
theorem follow_memberLexemes {members : List (Spelling × Document)}
    (each : ∀ m ∈ members, Apart m.2.lexemes) :
    Follow (memberLexemes members ++ [.objectClose]) := by
  induction members with
  | nil => exact .cons id .nil
  | cons m rest ih =>
    obtain ⟨first, others⟩ := List.forall_mem_cons.1 each
    have value := first.append (ih others)
    rw [memberLexemes, List.cons_append, List.cons_append, List.cons_append, List.append_assoc]
    exact .cons id (Follow.cons id (Follow.cons id value).apart).apart

theorem Document.apart_lexemes (d : Document) : Apart d.lexemes := by
  induction d using Document.induction with
  | word w => exact .singleton _
  | string s => exact .singleton _
  | array items ih =>
    cases items with
    | nil => exact (Follow.cons id (.singleton _)).apart
    | cons first rest =>
      obtain ⟨head, tail⟩ := List.forall_mem_cons.1 ih
      exact (Follow.cons id (head.append (follow_itemLexemes tail))).apart
  | object members ih =>
    cases members with
    | nil => exact (Follow.cons id (.singleton _)).apart
    | cons first rest =>
      obtain ⟨head, tail⟩ := List.forall_mem_cons.1 ih
      have value := head.append (follow_memberLexemes tail)
      exact (Follow.cons id (Follow.cons id (Follow.cons id value).apart).apart).apart

theorem mapM_itemLexemes {items : List Document}
    (each : ∀ d ∈ items, d.lexemes.mapM Lexeme.token? = d.value?.map tokens) :
    (itemLexemes items).mapM Lexeme.token? = (itemValues? items).map itemTokens := by
  induction items with
  | nil => rfl
  | cons d rest ih =>
    obtain ⟨first, others⟩ := List.forall_mem_cons.1 each
    rw [itemLexemes, List.mapM_cons, List.mapM_append, first, ih others, itemValues?]
    cases d.value? <;> cases itemValues? rest <;> rfl

theorem mapM_memberLexemes {members : List (Spelling × Document)}
    (each : ∀ m ∈ members, m.2.lexemes.mapM Lexeme.token? = m.2.value?.map tokens) :
    (memberLexemes members).mapM Lexeme.token? = (memberValues? members).map memberTokens := by
  induction members with
  | nil => rfl
  | cons m rest ih =>
    obtain ⟨first, others⟩ := List.forall_mem_cons.1 each
    rw [memberLexemes, List.mapM_cons, List.mapM_cons, List.mapM_cons, List.mapM_append, first,
      ih others, memberValues?, Lexeme.token?, Lexeme.token?, Lexeme.token?]
    cases m.1.text? <;> cases m.2.value? <;> cases memberValues? rest <;> rfl

/-- The lexemes of a document stand for the tokens of its value. -/
theorem Document.mapM_lexemes (d : Document) :
    d.lexemes.mapM Lexeme.token? = d.value?.map tokens := by
  induction d using Document.induction with
  | word w =>
    rw [lexemes, value?, Word.value?, List.mapM_cons, Lexeme.token?]
    cases token : wordToken? w.chars with
    | none => rfl
    | some t =>
      obtain ⟨v, rfl, word⟩ := exists_isWord_of_wordToken? token
      cases v <;> first | rfl | exact word.elim
  | string s =>
    rw [lexemes, value?, List.mapM_cons, Lexeme.token?]
    cases s.text? <;> rfl
  | array items ih =>
    cases items with
    | nil => rfl
    | cons first rest =>
      obtain ⟨head, tail⟩ := List.forall_mem_cons.1 ih
      rw [lexemes, value?, itemValues?, List.mapM_cons, List.mapM_append, List.mapM_append, head,
        mapM_itemLexemes tail]
      cases first.value? <;> cases itemValues? rest <;> rfl
  | object members ih =>
    cases members with
    | nil => rfl
    | cons first rest =>
      obtain ⟨head, tail⟩ := List.forall_mem_cons.1 ih
      rw [lexemes, value?, memberValues?, List.mapM_cons, List.mapM_cons, List.mapM_cons,
        List.mapM_append, List.mapM_append, head, mapM_memberLexemes tail, Lexeme.token?,
        Lexeme.token?, Lexeme.token?]
      cases first.1.text? <;> cases first.2.value? <;> cases memberValues? rest <;> rfl

/-- The tokens of a text are those of the value that it is a text of. -/
theorem Document.tokens?_of_isWritten {d : Document} {text : String} (written : d.IsWritten text) :
    tokens? text = d.value?.map tokens :=
  (Scan.run_spaced written d.apart_lexemes).trans d.mapM_lexemes

/-- Every text of a document is read as the canonical form of its value, unless this nests too
deep. -/
theorem Document.parse?_of_isWritten {d : Document} {text : String} (written : d.IsWritten text) :
    parse? text =
      d.value?.bind fun v => if v.nesting ≤ maxNesting then some v.canonical else none := by
  rw [parse?, tree?, tokens?_of_isWritten written]
  cases d.value? with
  | none => rfl
  | some v =>
    rw [Option.map_some, Option.bind_some, ofTokens?_tokens, Option.bind_some]
    split <;> rfl

/-! ## Telling whether a text is one of a document -/

/-- A lexeme does not begin with white space. -/
theorem Lexeme.exists_chars_eq_cons (l : Lexeme) :
    ∃ c cs, l.chars = c :: cs ∧ isSpace c = false := by
  cases l with
  | word w =>
    obtain ⟨c, cs, split⟩ := List.exists_cons_of_ne_nil w.nonempty
    have letter : isWordChar c = true :=
      List.all_eq_true.1 w.letters c (split ▸ List.mem_cons_self)
    refine ⟨c, cs, split, Bool.eq_false_iff.2 fun space => ?_⟩
    rw [Scan.isWordChar_of_isSpace space] at letter
    cases letter
  | _ => exact ⟨_, _, rfl, rfl⟩

/-- A text with some lexemes goes on with the first one after the white space. -/
theorem spaced_cons_iff {l : Lexeme} {ls : List Lexeme} {text : List Char} :
    Spaced (l :: ls) text ↔
      l.chars <+: text.dropWhile isSpace ∧
        Spaced ls ((text.dropWhile isSpace).drop l.chars.length) := by
  constructor
  · rintro (_ | @⟨gap, _, _, later, blank, more⟩)
    have skipped : (gap ++ (l.chars ++ later)).dropWhile isSpace = l.chars ++ later := by
      obtain ⟨c, cs, split, visible⟩ := l.exists_chars_eq_cons
      rw [List.dropWhile_append_of_pos blank, split, List.cons_append,
        List.dropWhile_cons_of_neg (by simp [visible])]
    rw [skipped, List.drop_left]
    exact ⟨List.prefix_append _ _, more⟩
  · rintro ⟨⟨later, begins⟩, more⟩
    rw [← begins, List.drop_left] at more
    have split := List.takeWhile_append_dropWhile (p := isSpace) (l := text)
    rw [← begins] at split
    rw [← split]
    exact .cons (fun c member => List.mem_takeWhile_imp member) more

theorem spaced_nil_iff {text : List Char} : Spaced [] text ↔ text.all isSpace = true := by
  rw [List.all_eq_true]
  constructor
  · rintro ⟨blank⟩
    exact blank
  · exact .nil

instance decidableSpaced : (ls : List Lexeme) → (text : List Char) → Decidable (Spaced ls text)
  | [], _ => decidable_of_iff' _ spaced_nil_iff
  | _ :: ls, _ =>
    have := decidableSpaced ls
    decidable_of_iff' _ spaced_cons_iff

instance (d : Document) (text : String) : Decidable (d.IsWritten text) :=
  decidableSpaced d.lexemes text.toList

/-- Whether a character stands for itself in a string. -/
def isPlain (c : Char) : Bool :=
  c != '"' && c != '\\'

theorem IsBody.of_plain {cs : List Char} (plain : cs.all isPlain = true) : IsBody cs := by
  induction cs with
  | nil => exact .nil
  | cons c cs ih =>
    rw [List.all_cons, Bool.and_eq_true, isPlain, Bool.and_eq_true] at plain
    obtain ⟨⟨quote, backslash⟩, others⟩ := plain
    exact .plain (by simpa using quote) (by simpa using backslash) (ih others)

/-- A string that is spelled without escapes. -/
def Spelling.plain (s : String) (plain : s.toList.all isPlain = true) : Spelling :=
  ⟨s.toList, .of_plain plain⟩

end SpanDashboard.Json
