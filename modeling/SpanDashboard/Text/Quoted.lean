import SpanDashboard.Text.Hidden

/-!
# Quoted texts

A text between quotation marks, as the error of `from_value` quotes a string that it found: the
common control characters have short escapes, other characters that would not show are spelled by
their number, and everything else stands for itself.
-/

set_option autoImplicit false

namespace SpanDashboard.Text

/-- One character of a quoted text. -/
def quotedChar (c : Char) : List Char :=
  match c with
  | '\x00' => ['\\', '0']
  | '\t' => ['\\', 't']
  | '\r' => ['\\', 'r']
  | '\n' => ['\\', 'n']
  | '"' => ['\\', '"']
  | '\\' => ['\\', '\\']
  | _ =>
    if isHidden c then
      ['\\', 'u', '\x7b'] ++ (Nat.toDigits 16 c.toNat) ++ ['\x7d']
    else [c]

/-- A text between quotation marks, on one line and with every character visible. -/
def quoted (s : String) : String :=
  String.ofList ('"' :: s.toList.flatMap quotedChar ++ ['"'])

end SpanDashboard.Text
