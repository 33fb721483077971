import AdminConsole.Domain.Mapping
import AdminConsole.Domain.Properties
import AdminConsole.Text.Punycode

/-!
# Domain names

A domain name is made of labels with dots between them. `toAscii?` gives the form in which it is
looked up: all in one spelling, and a label with other characters than those of ASCII as `xn--` and
its Punycode. A label that comes in that form already has to stand for a text that could have been
given instead.

Labels have to keep to rules: no mark stands first, characters that join or part others stand only
where they do so, and in a name with any character written from right to left each label has one
direction. Lengths do not matter, and labels may be empty.
-/

namespace AdminConsole.Domain

open AdminConsole.Text

/-! ### Joiners -/

/-- The non-joiner parts characters that would join. -/
def nonJoiner : Char := '\u200C'

/-- The joiner joins characters that would not. -/
def joiner : Char := '\u200D'

/-- The first character that is not transparent joins what is in front of it, when `side` tells that
it does so. -/
def meets (side : Joining → Bool) (cs : List Char) : Bool :=
  match cs.dropWhile fun c => joining c == .transparent with
  | [] => false
  | c :: _ => side (joining c)

/-- A joiner or a non-joiner stands in its place, given the characters in front of it, last one
first, and those behind it: behind a mark that drops a vowel, or for the non-joiner between
characters that join. -/
def isJoinerPlaced (c : Char) (front behind : List Char) : Bool :=
  (front.head?.any fun d => combiningClass d = 9) ||
    (c == nonJoiner && !front.isEmpty &&
      meets (fun j => j == .left || j == .both) front &&
      meets (fun j => j == .right || j == .both) behind)

/-- All joiners and non-joiners of a label stand in their places. -/
def areJoinersPlaced (front : List Char) : List Char → Bool
  | [] => true
  | c :: r =>
    ((c != joiner && c != nonJoiner) || isJoinerPlaced c front r) && areJoinersPlaced (c :: front) r

/-! ### Direction -/

/-- A direction that makes a name one with characters written from right to left. -/
def Direction.isFromRight (d : Direction) : Bool := d == .rightToLeft || d == .arabicDigit

/-- The directions of a label agree: it begins with a letter, which gives the direction of all the
letters, ends with a letter or digit, marks apart, and if it is written from right to left, has no
digits of two kinds. -/
def isOneWay (label : List Char) : Bool :=
  match label.map direction with
  | [] => true
  | first :: rest =>
    let body := (rest.reverse.dropWhile (· == .mark)).reverse
    let last := body.getLast?.getD first
    if first = .leftToRight then
      !body.any Direction.isFromRight && (last == .leftToRight || last == .europeanDigit)
    else if first = .rightToLeft then
      !body.contains .leftToRight && (last.isFromRight || last == .europeanDigit) &&
        !(body.contains .europeanDigit && body.contains .arabicDigit)
    else false

/-! ### Labels -/

/-- A character of ASCII that may not stand in a name. -/
def isForbidden (c : Char) : Bool :=
  c ≤ ' ' || c == '\x7F' || "#%/:<>?@[\\]^|".toList.contains c

/-- The longest label with other characters than those of ASCII. -/
def longestLabel : Nat := 1000

/-- A label keeps to the rules that concern it alone. -/
def isLabel (label : List Char) : Bool :=
  !label.any isForbidden &&
    (label.all (·.toNat < 0x80) ||
      (label.length ≤ longestLabel && !label.head?.any isMark && areJoinersPlaced [] label))

/-- What the form of a label for looking it up begins with, if that is Punycode. -/
def punycodeStart : List Char := "xn--".toList

/-- The text that a label in one spelling stands for. -/
def labelText? (label : List Char) : Option (List Char) :=
  if punycodeStart.isPrefixOf label then do
    let behind := label.drop punycodeStart.length
    if 2 * longestLabel < behind.length then none
    else
      let text ← Punycode.decode? behind
      if text.all (·.toNat < 0x80) ∨ spelled? text ≠ some text then none else some text
  else some label

/-- The form in which the text of a label is looked up. -/
def labelForm (text : List Char) : List Char :=
  if text.all (·.toNat < 0x80) then text else punycodeStart ++ Punycode.encode text

/-- The form in which a domain name is looked up. -/
def toAscii? (name : List Char) : Option (List Char) := do
  let labels := pieces (· == '.') (← spelled? name)
  let texts ← labels.mapM labelText?
  let oneWay := !(texts.any fun t => t.any fun c => (direction c).isFromRight) ||
    texts.all isOneWay
  if texts.all isLabel ∧ oneWay then
    return ['.'].intercalate (texts.map labelForm)
  else none

end AdminConsole.Domain
