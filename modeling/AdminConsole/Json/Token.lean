import AdminConsole.Json.Numeral
import AdminConsole.Text.Hexadecimal

/-!
# The words of a JSON text

A JSON text is a sequence of tokens with white space between them. The reader takes one character
at a time (`Lexing.next`), so a text is read by one pass (`Token.scan?`) and reading a text that is
made of two pieces is reading the one and then the other (`Lexing.run?_append`).

A string keeps whether all its surrogate escapes are paired: text that is only skipped may hold an
unpaired one, text that is looked at may not.
-/

namespace AdminConsole.Json

open AdminConsole.Text

/-- A word of a JSON text. A string with an unpaired surrogate escape has no text. -/
inductive Token where
  | openArray
  | closeArray
  | openObject
  | closeObject
  | colon
  | comma
  | null
  | bool (b : Bool)
  | number (n : Numeral)
  | string (text : Option String)
  deriving Repr, DecidableEq, Inhabited

/-! ### Strings -/

/-- Where a reader stands between the quotes of a string: at a plain character, just after a
backslash, or inside `\uXXXX` with the value so far and the number of hexadecimal digits that are
still owed. -/
inductive Escape where
  | plain
  | begun
  | unit (value owed : Nat)
  deriving Repr, DecidableEq

/-- A string that has been begun: its characters so far, last one first, whether every surrogate
escape before the latest was paired, and the leading surrogate that still lacks its partner. -/
structure StringScan where
  chars : List Char := []
  sound : Bool := true
  lead : Option Nat := none
  escape : Escape := .plain
  deriving Repr, DecidableEq

namespace StringScan

/-- Adds a character. A leading surrogate just before it remains without partner. -/
def push (s : StringScan) (c : Char) : StringScan :=
  { chars := c :: s.chars, sound := s.sound && s.lead.isNone, lead := none, escape := .plain }

/-- Adds the UTF-16 unit of an escape: a trailing surrogate completes the leading one before it. -/
def pushUnit (s : StringScan) (u : Nat) : StringScan :=
  if 0xD800 ≤ u ∧ u ≤ 0xDBFF then
    { s with sound := s.sound && s.lead.isNone, lead := some u, escape := .plain }
  else if 0xDC00 ≤ u ∧ u ≤ 0xDFFF then
    match s.lead with
    | some high =>
      { s with
        chars := Char.ofNat (0x10000 + (high - 0xD800) * 0x400 + (u - 0xDC00)) :: s.chars
        lead := none
        escape := .plain }
    | none => { s with sound := false, escape := .plain }
  else s.push (Char.ofNat u)

/-- The character that a one-letter escape stands for. -/
def shortEscape? (c : Char) : Option Char :=
  if c = '"' then some '"'
  else if c = '\\' then some '\\'
  else if c = '/' then some '/'
  else if c = 'b' then some '\x08'
  else if c = 'f' then some '\x0c'
  else if c = 'n' then some '\n'
  else if c = 'r' then some '\r'
  else if c = 't' then some '\t'
  else none

/-- Reads one character of a string that does not end it. -/
def next? (s : StringScan) (c : Char) : Option StringScan :=
  match s.escape with
  | .plain =>
    if c = '\\' then some { s with escape := .begun }
    else if c < ' ' then none
    else some (s.push c)
  | .begun =>
    if c = 'u' then some { s with escape := .unit 0 4 }
    else (shortEscape? c).map s.push
  | .unit v owed =>
    (hexValue? c).map fun d =>
      let v := v * 16 + d
      if owed ≤ 1 then s.pushUnit v else { s with escape := .unit v (owed - 1) }

/-- The text of a finished string, if all its surrogate escapes are paired. -/
def text? (s : StringScan) : Option String :=
  if s.sound ∧ s.lead = none then some (String.ofList s.chars.reverse) else none

end StringScan

/-! ### Numbers -/

/-- The part of a number that was read last. -/
inductive NumeralPart where
  | sign
  | zero
  | whole
  | point
  | fraction
  | mark
  | markSign
  | exponent
  deriving Repr, DecidableEq

/-- A number that has been begun, the digits of each part last one first. -/
structure NumeralScan where
  part : NumeralPart
  negative : Bool
  whole : List Char := []
  fraction : Option (List Char) := none
  exponent : Option (Bool × List Char) := none
  deriving Repr, DecidableEq

namespace NumeralScan

/-- Reads one more character of the number, if it can be one. -/
def next? (n : NumeralScan) (c : Char) : Option NumeralScan :=
  let digit := isDigit c
  let afterWhole : Option NumeralScan :=
    if c = '.' then some { n with part := .point, fraction := some [] }
    else if c = 'e' ∨ c = 'E' then some { n with part := .mark, exponent := some (false, []) }
    else none
  let withFraction : Option NumeralScan :=
    n.fraction.map fun ds => { n with part := .fraction, fraction := some (c :: ds) }
  let withExponent : Option NumeralScan :=
    n.exponent.map fun (neg, ds) => { n with part := .exponent, exponent := some (neg, c :: ds) }
  match n.part with
  | .sign =>
    if c = '0' then some { n with part := .zero, whole := [c] }
    else if digit then some { n with part := .whole, whole := [c] }
    else none
  | .zero => afterWhole
  | .whole => if digit then some { n with whole := c :: n.whole } else afterWhole
  | .point => if digit then withFraction else none
  | .fraction =>
    if digit then withFraction
    else if c = 'e' ∨ c = 'E' then some { n with part := .mark, exponent := some (false, []) }
    else none
  | .mark =>
    if c = '+' then some { n with part := .markSign }
    else if c = '-' then some { n with part := .markSign, exponent := some (true, []) }
    else if digit then withExponent
    else none
  | .markSign => if digit then withExponent else none
  | .exponent => if digit then withExponent else none

/-- The number, if what has been read is one. -/
def numeral? (n : NumeralScan) : Option Numeral :=
  match n.part with
  | .zero | .whole | .fraction | .exponent =>
    some
      { negative := n.negative
        whole := n.whole.reverse
        fraction := n.fraction.map List.reverse
        exponent := n.exponent.map fun (neg, ds) => (neg, ds.reverse) }
  | .sign | .point | .mark | .markSign => none

end NumeralScan

/-! ### The reader -/

/-- What the reader is in the middle of. -/
inductive Scan where
  | between
  | word (owed : List Char) (token : Token)
  | string (s : StringScan)
  | numeral (n : NumeralScan)
  deriving Repr, DecidableEq

/-- The tokens read so far, last one first, and what the reader is in the middle of. -/
structure Lexing where
  tokens : List Token := []
  scan : Scan := .between
  deriving Repr, DecidableEq

namespace Lexing

/-- Reads a character between two tokens. -/
def start? (tokens : List Token) (c : Char) : Option Lexing :=
  let emit (t : Token) : Option Lexing := some ⟨t :: tokens, .between⟩
  if c = ' ' ∨ c = '\t' ∨ c = '\n' ∨ c = '\r' then some ⟨tokens, .between⟩
  else if c = '[' then emit .openArray
  else if c = ']' then emit .closeArray
  else if c = '{' then emit .openObject
  else if c = '}' then emit .closeObject
  else if c = ':' then emit .colon
  else if c = ',' then emit .comma
  else if c = '"' then some ⟨tokens, .string {}⟩
  else if c = 'n' then some ⟨tokens, .word ['u', 'l', 'l'] .null⟩
  else if c = 't' then some ⟨tokens, .word ['r', 'u', 'e'] (.bool true)⟩
  else if c = 'f' then some ⟨tokens, .word ['a', 'l', 's', 'e'] (.bool false)⟩
  else if c = '-' then some ⟨tokens, .numeral { part := .sign, negative := true }⟩
  else
    ({ part := .sign, negative := false : NumeralScan }.next? c).map fun n =>
      ⟨tokens, .numeral n⟩

/-- Reads one character. A number ends at the first character that cannot be part of it. -/
def next? (l : Lexing) (c : Char) : Option Lexing :=
  match l.scan with
  | .between => start? l.tokens c
  | .word [] _ => none
  | .word [d] t => if c = d then some ⟨t :: l.tokens, .between⟩ else none
  | .word (d :: ds) t => if c = d then some ⟨l.tokens, .word ds t⟩ else none
  | .string s =>
    if c = '"' ∧ s.escape = .plain then some ⟨.string s.text? :: l.tokens, .between⟩
    else (s.next? c).map fun s => ⟨l.tokens, .string s⟩
  | .numeral n =>
    match n.next? c with
    | some n => some ⟨l.tokens, .numeral n⟩
    | none => n.numeral?.bind fun v => start? (.number v :: l.tokens) c

/-- Reads a text. -/
def run? (l : Lexing) : List Char → Option Lexing
  | [] => some l
  | c :: r => (l.next? c).bind fun l => l.run? r

/-- Reading a text that is made of two pieces is reading the one and then the other. -/
theorem run?_append (l : Lexing) (s t : List Char) :
    l.run? (s ++ t) = (l.run? s).bind fun l => l.run? t := by
  induction s generalizing l with
  | nil => simp [run?]
  | cons c s ih =>
    simp only [List.cons_append, run?]
    cases l.next? c with
    | none => rfl
    | some l' => simpa using ih l'

/-- The tokens, in order, once the text has ended. -/
def finish? (l : Lexing) : Option (List Token) :=
  match l.scan with
  | .between => some l.tokens.reverse
  | .numeral n => n.numeral?.map fun v => (Token.number v :: l.tokens).reverse
  | .word _ _ | .string _ => none

end Lexing

/-- The tokens of a text. -/
def Token.scan? (text : List Char) : Option (List Token) :=
  (Lexing.run? {} text).bind Lexing.finish?

end AdminConsole.Json
