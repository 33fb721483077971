import AdminConsole.Text.Decimal

/-!
# The fewest digits that read back

A finite double is `m · 2 ^ q`. The reals that round to it form an interval around it (with its
ends when `m` is even), and the double is written with the fewest decimal digits that fall into the
interval. On the grid of `k`-digit decimals only the two neighbours of the value have to be tried:
if any point of the grid is in the interval, so is one of them. All arithmetic is on natural
numbers, so nothing is lost on the way.
-/

namespace AdminConsole.Text

/-- A positive double as `mantissa · 2 ^ exponent`, and whether the next smaller double is only
half as far away as the next larger one. -/
structure Binary where
  mantissa : Nat
  exponent : Int
  narrowBelow : Bool
  deriving Repr

/-- The parts of a positive finite double, from its bit pattern without the sign. The lower 52 bits
are stored of the mantissa; the bit above them is hidden, and set except in the smallest doubles. -/
def Binary.ofBits (bits : Nat) : Binary :=
  let hidden : Nat := 0x10000000000000
  let stored : Nat := bits % hidden
  let biased : Nat := bits / hidden
  if biased = 0 then ⟨stored, -1074, false⟩
  else ⟨hidden + stored, (biased : Int) - 1075, stored = 0 && 1 < biased⟩

/-- A positive decimal: its digits, and the power of ten that its first digit counts. -/
structure Decimal where
  digits : List Char
  magnitude : Int
  deriving Repr

/-- A positive rational together with the interval of numbers that round to it, all over one
denominator. -/
structure Interval where
  low : Nat
  value : Nat
  high : Nat
  denominator : Nat
  closed : Bool

/-- The interval of a double. Four times the value and its two bounds are whole multiples of the
same power of two. -/
def Binary.interval (b : Binary) : Interval :=
  let power := b.exponent - 2
  let up := Nat.pow 2 power.toNat
  { low := (if b.narrowBelow then 4 * b.mantissa - 1 else 4 * b.mantissa - 2) * up
    value := 4 * b.mantissa * up
    high := (4 * b.mantissa + 2) * up
    denominator := Nat.pow 2 (-power).toNat
    closed := b.mantissa % 2 = 0 }

/-- The power of ten of the first digit of `num / den`, with `fuel` bounding how far below one it
may be. -/
def leadingPower (num den : Nat) : Nat → Int
  | 0 => 0
  | fuel + 1 =>
    if den ≤ num then ((digits (num / den)).length : Int) - 1
    else leadingPower (num * 10) den fuel - 1

/-- Whether `n · 10 ^ (-places)` lies in the interval. -/
def Interval.contains (i : Interval) (n : Nat) (places : Int) : Bool :=
  let point := n * Nat.pow 10 (-places).toNat * i.denominator
  let scale := Nat.pow 10 places.toNat
  if i.closed then i.low * scale ≤ point && point ≤ i.high * scale
  else i.low * scale < point && point < i.high * scale

/-- The neighbour of the value on the grid of multiples of `10 ^ (-places)` that reads back: the
nearer one if both do, and the even one of two that are equally near. -/
def Interval.onGrid (i : Interval) (places : Int) : Option Nat :=
  let scaledValue := i.value * Nat.pow 10 places.toNat
  let unit := i.denominator * Nat.pow 10 (-places).toNat
  let below := scaledValue / unit
  let above := below + 1
  match i.contains below places, i.contains above places with
  | true, false => some below
  | false, true => some above
  | false, false => none
  | true, true =>
    let rest := scaledValue % unit
    if 2 * rest < unit then some below
    else if unit < 2 * rest then some above
    else if below % 2 = 0 then some below
    else some above

/-- The first grid with a point in the interval, from `count` digits up to seventeen. -/
def Interval.search (i : Interval) (magnitude : Int) : Nat → Nat → Decimal
  | 0, _ => ⟨['0'], 0⟩
  | fuel + 1, count =>
    match i.onGrid (count - 1 - magnitude) with
    | some n =>
      let ds := digits n
      ⟨(ds.reverse.dropWhile (· == '0')).reverse, magnitude + ((ds.length : Int) - count)⟩
    | none => i.search magnitude fuel (count + 1)

/-- The shortest decimal that reads back as the double with these bits (sign left out). -/
def shortest (bits : Nat) : Decimal :=
  let i := (Binary.ofBits bits).interval
  i.search (leadingPower i.value i.denominator 400) 17 1

end AdminConsole.Text
