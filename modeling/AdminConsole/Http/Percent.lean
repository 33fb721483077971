import AdminConsole.Text.Hexadecimal

/-!
# Percent-encoding

What may not stand in a part of an address stands there as escapes, one for each byte of its UTF-8
form: a percent sign and two hexadecimal digits. `encode` writes escapes and leaves those that are
there already; `bytes` reads them, and a percent sign without two digits stands for itself.
-/

namespace AdminConsole.Percent

open AdminConsole.Text

/-- A byte as an escape. -/
def escape (b : UInt8) : List Char :=
  ['%', upperHexDigit (b.toNat / 16), upperHexDigit (b.toNat % 16)]

/-- A character may stand as it is: it is a printable one of ASCII, and not among those that are
kept out of that part. -/
def isPlain (forbidden : List Char) (c : Char) : Bool :=
  ' ' ≤ c && c ≤ '~' && !forbidden.contains c

/-- A part of an address, with escapes for all characters that may not stand in it. -/
def encode (forbidden cs : List Char) : List Char :=
  cs.flatMap fun c =>
    if isPlain forbidden c then [c] else (String.utf8EncodeChar c).flatMap escape

/-- The bytes that a part of an address stands for. -/
def bytes : List Char → List UInt8
  | '%' :: a :: b :: r =>
    match hexValue? a, hexValue? b with
    | some x, some y => UInt8.ofNat (16 * x + y) :: bytes r
    | _, _ => 37 :: bytes (a :: b :: r)
  | c :: r => String.utf8EncodeChar c ++ bytes r
  | [] => []

/-- The text that a part of an address stands for, if its bytes are UTF-8. -/
def decode? (cs : List Char) : Option String := String.fromUTF8? ⟨(bytes cs).toArray⟩

end AdminConsole.Percent
