/-!
# Lengths and bytes of a text

Lengths that show in messages are counted in UTF-8 bytes. `decodeLossy` reads bytes that need not be
UTF-8 at all, with U+FFFD standing for each maximal ill-formed piece.
-/

namespace AdminConsole.Text

/-- The number of UTF-8 bytes of a list of characters. -/
def byteLength : List Char → Nat
  | [] => 0
  | c :: r => c.utf8Size + byteLength r

/-! ### Bytes that need not be text -/

/-- A character whose first bytes have been read: the value so far, how many bytes are still owed
and the range the next one has to fall in. -/
structure Unfinished where
  value : Nat
  owed : Nat
  low : Nat
  high : Nat

/-- What has been read of a byte sequence: the finished characters, last one first, and the
character in the middle of which the reader stands. -/
structure Decoding where
  done : List Char
  unfinished : Option Unfinished

/-- The character that stands for an ill-formed piece. -/
def replacement : Char := '\uFFFD'

/-- Reads the first byte of a character. -/
def Decoding.first (done : List Char) (b : Nat) : Decoding :=
  if b < 0x80 then ⟨Char.ofNat b :: done, none⟩
  else if 0xC2 ≤ b ∧ b ≤ 0xDF then ⟨done, some ⟨b - 0xC0, 1, 0x80, 0xBF⟩⟩
  else if b = 0xE0 then ⟨done, some ⟨0, 2, 0xA0, 0xBF⟩⟩
  else if b = 0xED then ⟨done, some ⟨0xD, 2, 0x80, 0x9F⟩⟩
  else if 0xE1 ≤ b ∧ b ≤ 0xEF then ⟨done, some ⟨b - 0xE0, 2, 0x80, 0xBF⟩⟩
  else if b = 0xF0 then ⟨done, some ⟨0, 3, 0x90, 0xBF⟩⟩
  else if 0xF1 ≤ b ∧ b ≤ 0xF3 then ⟨done, some ⟨b - 0xF0, 3, 0x80, 0xBF⟩⟩
  else if b = 0xF4 then ⟨done, some ⟨4, 3, 0x80, 0x8F⟩⟩
  else ⟨replacement :: done, none⟩

/-- Reads one byte. A byte that cannot continue the unfinished character ends it as an ill-formed
piece and is read again as a first byte. -/
def Decoding.next (d : Decoding) (byte : UInt8) : Decoding :=
  let b := byte.toNat
  match d.unfinished with
  | none => .first d.done b
  | some u =>
    if u.low ≤ b ∧ b ≤ u.high then
      let value := u.value * 64 + (b - 0x80)
      if u.owed ≤ 1 then ⟨Char.ofNat value :: d.done, none⟩
      else ⟨d.done, some ⟨value, u.owed - 1, 0x80, 0xBF⟩⟩
    else .first (replacement :: d.done) b

/-- The text a byte sequence shows as: its UTF-8 characters, and U+FFFD for each maximal piece
that is none. -/
def decodeLossy (bytes : List UInt8) : String :=
  let d := bytes.foldl Decoding.next ⟨[], none⟩
  let done := if d.unfinished.isSome then replacement :: d.done else d.done
  String.ofList done.reverse

end AdminConsole.Text
