import AdminConsole.Text.CanonicalData
import AdminConsole.Text.Decimal
import AdminConsole.Text.Rows

/-!
# Canonical composition

Some texts of several characters are the same as others. `composed` chooses one of them, in which
letters and marks stand together as single characters where there are such: the normalization form
C. It takes all characters apart, brings marks that do not touch each other into the order of their
combining classes, and puts together what can be put together.
-/

namespace AdminConsole.Text

/-! ### Tables -/

/-- What a character is taken apart into, at one step. -/
structure Decomposition where
  char : Char
  parts : List Char
  /-- The parts are put together again. -/
  kept : Bool
  deriving Repr

/-- The decompositions of successive characters. -/
def decompositionsFrom (first : Nat) (entry : List Char) : List Decomposition :=
  (pieces (· == ',') (entry.drop 1)).zipIdx.map fun (cs, i) =>
    match cs with
    | '!' :: cs => ⟨Char.ofNat (first + i), hexChars cs, false⟩
    | cs => ⟨Char.ofNat (first + i), hexChars cs, true⟩

/-- All decompositions but those of Hangul. -/
def decompositions : Array Decomposition :=
  ((rows id decompositionText).flatMap fun r => decompositionsFrom r.first r.entry).toArray

/-- The combining classes other than zero. -/
def combiningClasses : List (Row Nat) := rows (fun cs => value (cs.drop 1)) combiningClassText

/-- The combining class of a character: zero, unless it is a mark that can change places with
others. -/
def combiningClass (c : Char) : Nat :=
  if c.toNat < 0x300 then 0 else (lookup? combiningClasses c).getD 0

/-! ### Hangul -/

/-- The parts of a syllable of Hangul: a leading consonant and a vowel, and perhaps a trailing
consonant. -/
def hangulParts? (c : Char) : Option (List Char) :=
  if 0xAC00 ≤ c.toNat ∧ c.toNat ≤ 0xD7A3 then
    let s := c.toNat - 0xAC00
    let front := [Char.ofNat (0x1100 + s / 588), Char.ofNat (0x1161 + s % 588 / 28)]
    some (if s % 28 = 0 then front else front ++ [Char.ofNat (0x11A7 + s % 28)])
  else none

/-- The syllable of Hangul that two characters make up. -/
def hangulPair? (a b : Char) : Option Char :=
  let l := a.toNat
  let v := b.toNat
  if 0x1100 ≤ l ∧ l < 0x1113 ∧ 0x1161 ≤ v ∧ v < 0x1176 then
    some (Char.ofNat (0xAC00 + ((l - 0x1100) * 21 + (v - 0x1161)) * 28))
  else if 0xAC00 ≤ l ∧ l ≤ 0xD7A3 ∧ (l - 0xAC00) % 28 = 0 ∧ 0x11A7 < v ∧ v < 0x11C3 then
    some (Char.ofNat (l + (v - 0x11A7)))
  else none

/-! ### Taking apart -/

/-- What a character is taken apart into, at one step. -/
def parts? (c : Char) : Option (List Char) :=
  if c.toNat < 0xC0 then none
  else (hangulParts? c).or ((decompositions.find? fun d => d.char == c).map Decomposition.parts)

/-- What a character is taken apart into by a number of steps. -/
def takenApart : Nat → Char → List Char
  | 0, c => [c]
  | n + 1, c =>
    match parts? c with
    | none => [c]
    | some cs => cs.flatMap (takenApart n)

/-- What a text is taken apart into. No character needs more than four steps. -/
def decomposed (cs : List Char) : List Char := cs.flatMap (takenApart 4)

/-! ### Order of marks -/

/-- Puts a character behind others, of which the last one comes first: a mark in front of marks of
greater classes. -/
def placeMark (c : Char) : List Char → List Char
  | [] => [c]
  | d :: r =>
    if combiningClass c ≠ 0 ∧ combiningClass c < combiningClass d then d :: placeMark c r
    else c :: d :: r

/-- A text with its marks in order. -/
def ordered (cs : List Char) : List Char := (cs.foldl (fun done c => placeMark c done) []).reverse

/-! ### Putting together -/

/-- The character that two others make up. -/
def pair? (a b : Char) : Option Char :=
  (hangulPair? a b).or
    ((decompositions.find? fun d => d.kept && d.parts == [a, b]).map Decomposition.char)

/-- A text that is being put together: what is done, last one first, the last character that is no
mark, and the marks that stay behind it, last one first. -/
structure Composing where
  done : List Char := []
  base : Option Char := none
  marks : List Char := []

namespace Composing

/-- All characters so far, last one first. -/
def all (s : Composing) : List Char := s.marks ++ s.base.toList ++ s.done

/-- The text goes on with a character that stays as it is. -/
def push (s : Composing) (c : Char) : Composing :=
  if combiningClass c = 0 then ⟨s.all, some c, []⟩ else { s with marks := c :: s.marks }

/-- A mark that stays keeps those of its class and of lower classes from what is in front of it. -/
def reaches (s : Composing) (c : Char) : Bool :=
  match s.marks with
  | [] => true
  | d :: _ => combiningClass d < combiningClass c

/-- The text goes on with a character. -/
def next (s : Composing) (c : Char) : Composing :=
  match s.base with
  | none => s.push c
  | some b =>
    match if s.reaches c then pair? b c else none with
    | some p => { s with base := some p }
    | none => s.push c

end Composing

/-- A text with its characters put together. -/
def composed (cs : List Char) : List Char :=
  ((ordered (decomposed cs)).foldl Composing.next {}).all.reverse

end AdminConsole.Text
