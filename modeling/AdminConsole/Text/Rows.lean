/-!
# Tables of characters

A table says what holds of characters, one row for a range of them. It is written as a text of rows
with blanks between them: the first character of the range, and behind a hyphen the last one if
there are more, both as hexadecimal numbers in upper case; then the entry, which begins with
something else.
-/

namespace AdminConsole.Text

/-- What holds of the characters from `first` to `last`. -/
structure Row (α : Type) where
  first : Nat
  last : Nat
  entry : α
  deriving Repr

namespace Row

/-- The character with a number lies in the range of a row. -/
def covers {α : Type} (r : Row α) (n : Nat) : Bool := r.first ≤ n && n ≤ r.last

end Row

/-- The value of a hexadecimal digit in upper case. -/
def upperHexValue? (c : Char) : Option Nat :=
  if '0' ≤ c ∧ c ≤ '9' then some (c.toNat - 48)
  else if 'A' ≤ c ∧ c ≤ 'F' then some (c.toNat - 55)
  else none

/-- The number that a text begins with behind the digits of `n`, and what follows it. -/
def hexNumber (n : Nat) : List Char → Nat × List Char
  | [] => (n, [])
  | c :: r =>
    match upperHexValue? c with
    | some d => hexNumber (16 * n + d) r
    | none => (n, c :: r)

/-- The pieces of a text between characters that `p` holds for: one more than there are such
characters. -/
def pieces (p : Char → Bool) : List Char → List (List Char)
  | [] => [[]]
  | c :: r =>
    match p c, pieces p r with
    | true, ps => [] :: ps
    | false, [] => [[c]]
    | false, s :: ps => (c :: s) :: ps

/-- A row, given how an entry is read. -/
def Row.read {α : Type} (entry : List Char → α) (cs : List Char) : Row α :=
  let (first, rest) := hexNumber 0 cs
  match rest with
  | '-' :: rest =>
    let (last, rest) := hexNumber 0 rest
    ⟨first, last, entry rest⟩
  | _ => ⟨first, first, entry rest⟩

/-- The rows that a text is made of. -/
def rows {α : Type} (entry : List Char → α) (text : String) : List (Row α) :=
  (pieces (· == ' ') text.toList).map (Row.read entry)

/-- What a table says of a character. -/
def lookup? {α : Type} (table : List (Row α)) (c : Char) : Option α :=
  (table.find? fun r => r.covers c.toNat).map Row.entry

/-- Characters that are written as hexadecimal numbers with dots between them. -/
def hexChars (cs : List Char) : List Char :=
  (pieces (· == '.') cs).map fun ds => Char.ofNat (hexNumber 0 ds).1

end AdminConsole.Text
