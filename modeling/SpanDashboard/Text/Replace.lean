/-!
# Replacing text

What `replace` does in `html_escape` and in `endpoint_path`: every occurrence of a piece of text is
replaced, read from left to right; what has been put in is not read again. A single character is
replaced by `replaceChar`, a longer piece by `replaceAll`.
-/

set_option autoImplicit false

namespace SpanDashboard.Text

/-- Writes `new` for every occurrence of the character `c`. -/
def replaceChar (c : Char) (new : List Char) (text : List Char) : List Char :=
  text.flatMap fun d => if d = c then new else [d]

/-- Replaces occurrences of `old` after skipping the first `skip` characters, which belong to an
occurrence that has been replaced already. -/
def replaceFrom (old new : List Char) : Nat → List Char → List Char
  | _, [] => []
  | skip + 1, _ :: rest => replaceFrom old new skip rest
  | 0, c :: rest =>
    if old.isPrefixOf (c :: rest) then new ++ replaceFrom old new (old.length - 1) rest
    else c :: replaceFrom old new 0 rest

/-- Writes `new` for every occurrence of the nonempty piece `old`. -/
def replaceAll (old new text : String) : String :=
  String.ofList (replaceFrom old.toList new.toList 0 text.toList)

theorem replaceChar_append (c : Char) (new s t : List Char) :
    replaceChar c new (s ++ t) = replaceChar c new s ++ replaceChar c new t := by
  simp [replaceChar]

end SpanDashboard.Text
