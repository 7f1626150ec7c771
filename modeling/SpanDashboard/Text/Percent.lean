import SpanDashboard.Text.Hex

/-!
# Percent-encoded path segments

A text is written as one segment of a path by `utf8_percent_encode`: the bytes of its UTF-8 form
that are in the set `PATH_SEGMENT` or are no ASCII become `%` and two hexadecimal digits, all others
stand for themselves. `decodeBytes` undoes the encoding byte by byte.
-/

set_option autoImplicit false

namespace SpanDashboard.Percent

/-- What `PATH_SEGMENT` adds to `CONTROLS`: space, quotation mark, number sign, percent sign, slash,
angle brackets, question mark, grave accent and braces. -/
def special : List UInt8 :=
  [0x20, 0x22, 0x23, 0x25, 0x2F, 0x3C, 0x3E, 0x3F, 0x60, 0x7B, 0x7D]

/-- Whether a byte is written as a percent sign and two digits: those of `PATH_SEGMENT`, whose
`CONTROLS` are the bytes below the space and the last one of ASCII, and all beyond ASCII. -/
def isEncoded (b : UInt8) : Bool :=
  b < 0x20 || 0x7F ≤ b || special.contains b

/-- One byte of a segment. -/
def encodeByte (b : UInt8) : List Char :=
  if isEncoded b then ['%', Hex.upper (b.toNat / 16), Hex.upper (b.toNat % 16)]
  else [Char.ofNat b.toNat]

/-- The UTF-8 bytes of a text. -/
def utf8 (text : List Char) : List UInt8 :=
  text.flatMap String.utf8EncodeChar

/-- A text as one path segment: `utf8_percent_encode`. -/
def encode (text : String) : String :=
  String.ofList ((utf8 text.toList).flatMap encodeByte)

/-- The bytes that a segment stands for; a percent sign without two digits after it stands for
itself. -/
def decodeBytes : List Char → List UInt8
  | [] => []
  | '%' :: a :: b :: rest =>
    match Hex.value? a, Hex.value? b with
    | some high, some low => UInt8.ofNat (16 * high + low) :: decodeBytes rest
    | _, _ => String.utf8EncodeChar '%' ++ decodeBytes (a :: b :: rest)
  | c :: rest => String.utf8EncodeChar c ++ decodeBytes rest

/-- The text that a segment stands for, if its bytes are UTF-8. -/
def decode? (segment : String) : Option String :=
  String.fromUTF8? ⟨(decodeBytes segment.toList).toArray⟩

end SpanDashboard.Percent
