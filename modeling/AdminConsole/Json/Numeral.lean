import AdminConsole.Text.Decimal

/-!
# Numbers as JSON writes and means them

A `Numeral` is a number as a JSON text spells it; a `Number` is what it means. Spelled without a
point and an exponent, a number that fits 64 bits (signed or unsigned) is exact. Every other one is
a double: its digits are read into a 64-bit significand for as long as they fit, the rest only
count towards the scale, and the significand is scaled by one power of ten. A double beyond the
finite range is no number at all; one below it is zero, which keeps its sign.
-/

namespace AdminConsole.Json

open AdminConsole.Text

/-- A number as spelled: its sign, the digits before the point, those after it (if there is a
point), and the exponent's sign and digits (if there is one). -/
structure Numeral where
  negative : Bool
  whole : List Char
  fraction : Option (List Char)
  exponent : Option (Bool × List Char)
  deriving Repr, DecidableEq, Inhabited

/-- What a numeral means. -/
inductive Number where
  | int (i : Int)
  | float (x : Float)
  deriving Repr, Inhabited

namespace Numeral

/-- The largest significand, and the largest integer that is exact: all 64 bits set. -/
def limit : Nat := 0xFFFFFFFFFFFFFFFF

/-- Reads digits into a significand for as long as the result fits, and gives the significand and
the digits that were left out. -/
def accumulate (significand : Nat) : List Char → Nat × List Char
  | [] => (significand, [])
  | d :: ds =>
    let next := significand * 10 + digitValue d
    if next ≤ limit then accumulate next ds else (significand, d :: ds)

/-- The double nearest to a power of ten within the finite range. -/
def powerOfTen (n : Nat) : Float := Float.ofScientific 1 false n

/-- A double divided by `10 ^ n`, in steps that stay within the finite range. -/
def scaleDown (x : Float) (n : Nat) : Float :=
  if n ≤ 308 then x / powerOfTen n
  else if x == 0 then x
  else scaleDown (x / powerOfTen 308) (n - 308)
termination_by n

/-- `significand · 10 ^ scale` as a double, if it is finite. -/
def scaled? (significand : Nat) (scale : Int) : Option Float :=
  let x := significand.toUInt64.toFloat
  if scale < 0 then some (scaleDown x scale.natAbs)
  else if scale ≤ 308 then
    let y := x * powerOfTen scale.natAbs
    if y.isInf then none else some y
  else if x == 0 then some x
  else none

/-- The largest exponent that is taken at its value; one that is spelled with more stands for an
overflow or an underflow whatever the other digits are. -/
def exponentLimit : Nat := 0x7FFFFFFF

/-- The magnitude of a numeral that has a point, an exponent or too many digits. -/
def magnitude? (n : Numeral) : Option Float :=
  let (significand, dropped) := accumulate 0 n.whole
  let (significand, scale) :=
    match n.fraction with
    | none => (significand, (dropped.length : Int))
    | some ds =>
      let (s, left) := accumulate significand ds
      (s, (dropped.length : Int) - (ds.length - left.length : Nat))
  match n.exponent with
  | none => scaled? significand scale
  | some (negative, ds) =>
    let e := value ds
    if exponentLimit < e then
      if significand ≠ 0 ∧ ¬ negative then none else some 0
    else scaled? significand (if negative then scale - e else scale + e)

/-- The exact integer a numeral stands for: it has neither point nor exponent, and it fits 64
bits. A negative zero is no integer, for it keeps its sign. -/
def integer? (n : Numeral) : Option Int :=
  match n.fraction, n.exponent with
  | none, none =>
    let v := value n.whole
    if n.negative then
      if 0 < v ∧ v ≤ 0x8000000000000000 then some (-(v : Int)) else none
    else if v ≤ limit then some v else none
  | _, _ => none

/-- What a numeral means, if it is within range. -/
def toNumber? (n : Numeral) : Option Number :=
  match n.integer? with
  | some i => some (.int i)
  | none => n.magnitude?.map fun x => .float (if n.negative then -x else x)

end Numeral

end AdminConsole.Json
