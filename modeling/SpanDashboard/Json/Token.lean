import SpanDashboard.Json.Number
import SpanDashboard.Text.Hex

/-!
# Tokens of JSON text

A text is cut into tokens one character at a time. `Scan` is what is known between two characters,
`Scan.step` takes in one character and gives the tokens that it completes, and `tokens?` runs over
a whole text. Words, that is `null`, `true`, `false` and numbers, end where a character follows
that no word contains, so that two words never stand side by side.
-/

set_option autoImplicit false

namespace SpanDashboard.Json

/-- A token of JSON text. -/
inductive Token where
  | arrayOpen
  | arrayClose
  | objectOpen
  | objectClose
  | comma
  | colon
  /-- The value of a word. -/
  | scalar (value : Json)
  | string (s : String)

/-- A part of a string between quotation marks. -/
inductive Piece where
  /-- A character, written as itself or by a short escape. -/
  | char (c : Char)
  /-- A unit of UTF-16, written by its number. -/
  | unit (n : Nat)
  deriving DecidableEq, Repr

/-- Whether a unit is the first half of a character outside the basic plane. -/
def isHighSurrogate (n : Nat) : Bool :=
  0xD800 ≤ n && n < 0xDC00

/-- Whether a unit is the second half of a character outside the basic plane. -/
def isLowSurrogate (n : Nat) : Bool :=
  0xDC00 ≤ n && n < 0xE000

/-- The character that two halves stand for. -/
def joinSurrogates (high low : Nat) : Char :=
  Char.ofNat (0x10000 + (high - 0xD800) * 0x400 + (low - 0xDC00))

/-- The characters that the parts of a string stand for; a half without its other half stands for
none. -/
def Piece.join? : List Piece → Option (List Char)
  | [] => some []
  | .char c :: rest => (join? rest).map (c :: ·)
  | .unit high :: .unit low :: rest =>
    if isHighSurrogate high then
      if isLowSurrogate low then (join? rest).map (joinSurrogates high low :: ·) else none
    else if isLowSurrogate high then none
    else (join? (.unit low :: rest)).map (Char.ofNat high :: ·)
  | .unit n :: rest =>
    if isHighSurrogate n || isLowSurrogate n then none
    else (join? rest).map (Char.ofNat n :: ·)

/-- Whether a character may stand between tokens. -/
def isSpace (c : Char) : Bool :=
  c == ' ' || c == '\t' || c == '\n' || c == '\r'

/-- Whether a character may be part of a word. -/
def isWordChar (c : Char) : Bool :=
  c.isAlphanum || c == '+' || c == '-' || c == '.'

/-- The token of a whole word. -/
def wordToken? (word : List Char) : Option Token :=
  if word = ['n', 'u', 'l', 'l'] then some (.scalar .null)
  else if word = ['t', 'r', 'u', 'e'] then some (.scalar (.bool true))
  else if word = ['f', 'a', 'l', 's', 'e'] then some (.scalar (.bool false))
  else (Literal.read? word).bind fun l => l.value?.map .scalar

/-- What is known between two characters of a text. Parts are collected last first. -/
inductive Scan where
  /-- No token has been begun. -/
  | between
  /-- Within a word. -/
  | word (before : List Char)
  /-- Within a string. -/
  | string (before : List Piece)
  /-- Within a string, after a backslash. -/
  | escape (before : List Piece)
  /-- Within a string, where some more digits of a unit's number must follow. -/
  | unit (before : List Piece) (value : Nat) (missing : Nat)
  deriving DecidableEq, Repr

namespace Scan

/-- Takes in a character where no token has been begun. -/
def start (c : Char) : Option (List Token × Scan) :=
  match c with
  | '[' => some ([.arrayOpen], between)
  | ']' => some ([.arrayClose], between)
  | '\x7b' => some ([.objectOpen], between)
  | '\x7d' => some ([.objectClose], between)
  | ',' => some ([.comma], between)
  | ':' => some ([.colon], between)
  | '"' => some ([], string [])
  | _ =>
    if isSpace c then some ([], between)
    else if isWordChar c then some ([], word [c])
    else none

/-- Takes in a character within a string. -/
def inString (before : List Piece) (c : Char) : Option (List Token × Scan) :=
  match c with
  | '"' => (Piece.join? before.reverse).map fun cs => ([.string (String.ofList cs)], between)
  | '\\' => some ([], escape before)
  | _ => if c.toNat < 0x20 then none else some ([], string (.char c :: before))

/-- The character that a short escape stands for. -/
def shortEscape? (c : Char) : Option Char :=
  match c with
  | '"' => some '"'
  | '\\' => some '\\'
  | '/' => some '/'
  | 'b' => some '\x08'
  | 'f' => some '\x0c'
  | 'n' => some '\n'
  | 'r' => some '\r'
  | 't' => some '\t'
  | _ => none

/-- Takes in one character. -/
def step : Scan → Char → Option (List Token × Scan)
  | between, c => start c
  | word before, c =>
    if isWordChar c then some ([], word (c :: before))
    else do
      let token ← wordToken? before.reverse
      let (tokens, next) ← start c
      some (token :: tokens, next)
  | string before, c => inString before c
  | escape before, c =>
    if c = 'u' then some ([], unit before 0 3)
    else (shortEscape? c).map fun d => ([], string (.char d :: before))
  | unit before value missing, c => do
    let digit ← Hex.value? c
    let value := 16 * value + digit
    match missing with
    | 0 => some ([], string (.unit value :: before))
    | missing + 1 => some ([], unit before value missing)

/-- The tokens that the end of the text completes. -/
def finish : Scan → Option (List Token)
  | between => some []
  | word before => (wordToken? before.reverse).map fun token => [token]
  | _ => none

/-- The tokens of the rest of a text. -/
def run (state : Scan) : List Char → Option (List Token)
  | [] => state.finish
  | c :: rest => do
    let (tokens, next) ← state.step c
    let more ← next.run rest
    some (tokens ++ more)

end Scan

/-- The tokens of a text. -/
def tokens? (text : String) : Option (List Token) :=
  Scan.between.run text.toList

end SpanDashboard.Json
