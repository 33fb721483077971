import AdminConsole.Text.Decimal

/-!
# Punycode

A text of any characters as one of ASCII characters. The ASCII characters of the text come first,
with a hyphen behind them; then each of the others, in the order of their numbers, as the distance
from the one before it, counted over all places where it could stand. Distances are written in
digits of base 36, least one first, with thresholds that adapt to the distances so far: a digit
below its threshold is the last one.
-/

namespace AdminConsole.Text.Punycode

/-! ### Digits -/

/-- The digit with a value: letters up to 25, and then decimal digits. -/
def digit (n : Nat) : Char := if n < 26 then Char.ofNat (97 + n) else Char.ofNat (22 + n)

/-- The value of a digit. -/
def digitValue? (c : Char) : Option Nat :=
  if 'a' ≤ c ∧ c ≤ 'z' then some (c.toNat - 97)
  else if isDigit c then some (c.toNat - 22)
  else none

/-- The threshold of the digit at a place, which is counted in steps of 36. -/
def threshold (bias place : Nat) : Nat := min 26 (max 1 (place - bias))

theorem threshold_pos (bias place : Nat) : 0 < threshold bias place := by
  unfold threshold
  omega

/-- Divides by 35 until the number is small, and counts the steps in 36. -/
def damp (steps delta : Nat) : Nat × Nat :=
  if h : 455 < delta then damp (steps + 36) (delta / 35) else (steps, delta)
termination_by delta
decreasing_by omega

/-- The bias behind a distance, when there are `count` characters. -/
def adapt (first : Bool) (delta count : Nat) : Nat :=
  let delta := if first then delta / 700 else delta / 2
  let (steps, delta) := damp 0 (delta + delta / count)
  steps + 36 * delta / (delta + 38)

/-! ### Writing -/

/-- The digits of a distance from a place on. -/
def digits (bias place q : Nat) : List Char :=
  let t := threshold bias place
  if h : q < t then [digit q]
  else digit (t + (q - t) % (36 - t)) :: digits bias (place + 36) ((q - t) / (36 - t))
termination_by q
decreasing_by
  have pos := threshold_pos bias place
  exact Nat.lt_of_le_of_lt (Nat.div_le_self _ _) (by omega)

/-- A text that is being written: the distance so far, the bias, how many characters are done, and
the digits, last ones first. -/
structure Writing where
  delta : Nat := 0
  bias : Nat := 72
  done : Nat
  output : List Char := []

/-- Goes past one character of the text to those with the number `n`. -/
def Writing.next (basic n : Nat) (w : Writing) (c : Char) : Writing :=
  if c.toNat < n then { w with delta := w.delta + 1 }
  else if c.toNat = n then
    { delta := 0
      bias := adapt (w.done == basic) w.delta (w.done + 1)
      done := w.done + 1
      output := (digits w.bias 36 w.delta).reverse ++ w.output }
  else w

/-- Writes the characters with the given numbers, the least one first; `least` is the least number
that has not been dealt with. -/
def Writing.run (basic : Nat) (cs : List Char) (w : Writing) (least : Nat) :
    List Nat → Writing
  | [] => w
  | n :: ns =>
    let w := { w with delta := w.delta + (n - least) * (w.done + 1) }
    let w := cs.foldl (Writing.next basic n) w
    Writing.run basic cs { w with delta := w.delta + 1 } (n + 1) ns

/-- Puts a number among greater and lesser ones, once. -/
def insert (n : Nat) : List Nat → List Nat
  | [] => [n]
  | m :: ms => if n < m then n :: m :: ms else if n = m then m :: ms else m :: insert n ms

/-- The ASCII text of a text. -/
def encode (cs : List Char) : List Char :=
  let basic := cs.filter (·.toNat < 0x80)
  let numbers := (cs.filter (0x80 ≤ ·.toNat)).foldl (fun ns c => insert c.toNat ns) []
  let written := Writing.run basic.length cs { done := basic.length } 0x80 numbers
  (if basic = [] then [] else basic ++ ['-']) ++ written.output.reverse

/-! ### Reading -/

/-- Reads a distance from a place on, and gives what follows it. -/
def distance? (bias : Nat) (place weight sum : Nat) : List Char → Option (Nat × List Char)
  | [] => none
  | c :: r => do
    let d ← digitValue? c
    let t := threshold bias place
    let sum := sum + d * weight
    if d < t then return (sum, r)
    else distance? bias (place + 36) (weight * (36 - t)) sum r

theorem length_lt_of_distance? {bias place weight sum n : Nat} {cs rest : List Char}
    (h : distance? bias place weight sum cs = some (n, rest)) : rest.length < cs.length := by
  induction cs generalizing place weight sum with
  | nil => simp [distance?] at h
  | cons c r ih =>
    simp only [distance?, bind, Option.bind_eq_some_iff] at h
    obtain ⟨d, -, h⟩ := h
    split at h
    · simp only [pure, Option.some.injEq, Prod.mk.injEq] at h
      simp [h.2]
    · exact Nat.lt_succ_of_lt (ih h)

/-- Reads the distances: `place` is where the last character was put, and `number` is its number. -/
def fill? (text : List Char) (place number bias : Nat) (first : Bool) (cs : List Char) :
    Option (List Char) :=
  if cs = [] then some text
  else
    match h : distance? bias 36 1 0 cs with
    | none => none
    | some (delta, rest) =>
      have := length_lt_of_distance? h
      let count := text.length + 1
      let sum := place + delta
      let number := number + sum / count
      if Nat.isValidChar number then
        let place := sum % count
        let text := text.take place ++ Char.ofNat number :: text.drop place
        fill? text (place + 1) number (adapt first delta count) false rest
      else none
termination_by cs.length

/-- The text that an ASCII text stands for. The last hyphen ends the ASCII characters, and there has
to be one of those in front of it. -/
def decode? (cs : List Char) : Option (List Char) :=
  let behind := (cs.reverse.takeWhile (· != '-')).reverse
  let front := cs.take (cs.length - behind.length)
  if front = ['-'] ∨ front.any (0x80 ≤ ·.toNat) then none
  else fill? front.dropLast 0 0x80 72 true behind

end AdminConsole.Text.Punycode
