import AdminConsole.Json.Basic
import AdminConsole.Text.Hexadecimal
import AdminConsole.Text.Shortest

/-!
# Writing values

Two layouts of one value: `compact` has no white space at all, `pretty` puts each element and each
member on a line of its own, indented by two spaces a level. Both write a string between quotes
with the quote, the backslash and the control characters below U+0020 escaped and every other
character as it is, and both write a double with the fewest digits that read back.
-/

namespace AdminConsole.Json

open AdminConsole.Text

/-! ### Strings -/

/-- A character as it stands between quotes. -/
def escapeChar (c : Char) : List Char :=
  if c = '"' then ['\\', '"']
  else if c = '\\' then ['\\', '\\']
  else if c = '\x08' then ['\\', 'b']
  else if c = '\x0c' then ['\\', 'f']
  else if c = '\n' then ['\\', 'n']
  else if c = '\r' then ['\\', 'r']
  else if c = '\t' then ['\\', 't']
  else if c < ' ' then ['\\', 'u', '0', '0', hexDigit (c.toNat / 16), hexDigit (c.toNat % 16)]
  else [c]

/-- A text between quotes. -/
def quote (s : String) : List Char := '"' :: (s.toList.flatMap escapeChar ++ ['"'])

/-! ### Numbers -/

/-- A positive decimal as a JSON number. Its digits stand around the point while the first of them
counts `10 ^ 15` at most and `10 ^ -5` at least; beyond that an exponent follows, with its sign. -/
def layout (d : Decimal) : List Char :=
  let count := d.digits.length
  if 0 ≤ d.magnitude ∧ d.magnitude ≤ 15 then
    let whole := d.magnitude.natAbs + 1
    if count ≤ whole then d.digits ++ List.replicate (whole - count) '0' ++ ['.', '0']
    else d.digits.take whole ++ '.' :: d.digits.drop whole
  else if -5 ≤ d.magnitude ∧ d.magnitude < 0 then
    '0' :: '.' :: (List.replicate (d.magnitude.natAbs - 1) '0' ++ d.digits)
  else
    let sign := if d.magnitude < 0 then '-' else '+'
    let tail := 'e' :: sign :: digits d.magnitude.natAbs
    match d.digits with
    | [] => tail
    | [c] => c :: tail
    | c :: rest => c :: '.' :: (rest ++ tail)

/-- A double, which is finite, as a JSON number. -/
def floatText (x : Float) : List Char :=
  let bits := x.toBits.toNat
  let negative := 0x8000000000000000 ≤ bits
  let magnitude := bits % 0x8000000000000000
  let text := if magnitude = 0 then ['0', '.', '0'] else layout (shortest magnitude)
  if negative then '-' :: text else text

/-- A number. -/
def Number.text : Number → List Char
  | .int i => (intText i).toList
  | .float x => floatText x

/-! ### Values -/

mutual

/-- The characters of a value without white space. -/
def compactChars : Json → List Char
  | .null => ['n', 'u', 'l', 'l']
  | .bool true => ['t', 'r', 'u', 'e']
  | .bool false => ['f', 'a', 'l', 's', 'e']
  | .number n => n.text
  | .string s => quote s
  | .array es => '[' :: (compactElements es ++ [']'])
  | .object ms => '{' :: (compactMembers ms ++ ['}'])

/-- The elements of an array with commas between them. -/
def compactElements : List Json → List Char
  | [] => []
  | [v] => compactChars v
  | v :: vs => compactChars v ++ ',' :: compactElements vs

/-- The members of an object with commas between them. -/
def compactMembers : List (String × Json) → List Char
  | [] => []
  | [(k, v)] => quote k ++ ':' :: compactChars v
  | (k, v) :: ms => quote k ++ ':' :: (compactChars v ++ ',' :: compactMembers ms)

end

/-- The start of a new line at a level of nesting. -/
def newLine (level : Nat) : List Char := '\n' :: List.replicate (2 * level) ' '

mutual

/-- The characters of a value that stands at a level of nesting, laid out over lines. -/
def prettyChars (level : Nat) : Json → List Char
  | .null => ['n', 'u', 'l', 'l']
  | .bool true => ['t', 'r', 'u', 'e']
  | .bool false => ['f', 'a', 'l', 's', 'e']
  | .number n => n.text
  | .string s => quote s
  | .array [] => ['[', ']']
  | .array (e :: es) => '[' :: (prettyElements (level + 1) (e :: es) ++ newLine level ++ [']'])
  | .object [] => ['{', '}']
  | .object (m :: ms) => '{' :: (prettyMembers (level + 1) (m :: ms) ++ newLine level ++ ['}'])

/-- The elements of an array, each on its line. -/
def prettyElements (level : Nat) : List Json → List Char
  | [] => []
  | [v] => newLine level ++ prettyChars level v
  | v :: vs => newLine level ++ prettyChars level v ++ ',' :: prettyElements level vs

/-- The members of an object, each on its line. -/
def prettyMembers (level : Nat) : List (String × Json) → List Char
  | [] => []
  | [(k, v)] => newLine level ++ quote k ++ ':' :: ' ' :: prettyChars level v
  | (k, v) :: ms =>
    newLine level ++ quote k ++ ':' :: ' ' :: (prettyChars level v ++ ',' :: prettyMembers level ms)

end

/-- The text of a value, without white space. -/
def compact (v : Json) : String := String.ofList (compactChars v)

/-- The text of a value, laid out over lines. -/
def pretty (v : Json) : String := String.ofList (prettyChars 0 v)

end AdminConsole.Json
