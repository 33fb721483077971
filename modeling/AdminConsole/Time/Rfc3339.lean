import AdminConsole.Text.Blank
import AdminConsole.Text.Decimal
import AdminConsole.Time.Moment

/-!
# Moments as text

A moment is written as `2024-01-02T03:04:05Z`, always in UTC, with three, six or nine digits of a
second where they are needed. Reading is lenient: any offset is accepted and taken into account,
the parts may be spaced out and have fewer digits, `t` and `z` may be in lower case, and digits of
a second beyond the ninth are cut off.
-/

namespace AdminConsole.Time

open AdminConsole.Text

namespace Moment

/-! ### Writing -/

/-- A year as four digits; one outside of 0 to 9999 has a sign and as many digits as it needs. -/
def yearText (year : Int) : List Char :=
  if 0 ≤ year ∧ year ≤ 9999 then padded 4 year.natAbs
  else
    let ds := digits year.natAbs
    (if year < 0 then '-' else '+') :: (List.replicate (4 - ds.length) '0' ++ ds)

/-- The part of a second, with as few groups of three digits as it needs. -/
def fractionText (nanosecond : Nat) : List Char :=
  if nanosecond = 0 then []
  else if nanosecond % 1000000 = 0 then '.' :: padded 3 (nanosecond / 1000000)
  else if nanosecond % 1000 = 0 then '.' :: padded 6 (nanosecond / 1000)
  else '.' :: padded 9 nanosecond

/-- The characters of a moment. A leap second is written as second 60. -/
def renderChars (m : Moment) : List Char :=
  let leap := 1000000000 ≤ m.nanosecond
  let second := if leap then m.second + 1 else m.second
  let nanosecond := if leap then m.nanosecond - 1000000000 else m.nanosecond
  yearText m.date.year ++ '-' :: (padded 2 m.date.month ++ '-' :: (padded 2 m.date.day ++
    'T' :: (padded 2 m.hour ++ ':' :: (padded 2 m.minute ++ ':' :: (padded 2 second ++
    (fractionText nanosecond ++ ['Z']))))))

/-- The text of a moment. -/
def render (m : Moment) : String := String.ofList m.renderChars

/-! ### Reading -/

/-- A number of one digit up to `width`, after any white space. -/
def number? (width : Nat) (cs : List Char) : Option (Nat × List Char) :=
  let cs := dropBlank cs
  let ds := (cs.take width).takeWhile isDigit
  if ds.isEmpty then none else some (value ds, cs.drop ds.length)

/-- A year: up to four digits, or a sign and any number of them. -/
def year? (cs : List Char) : Option (Int × List Char) :=
  match dropBlank cs with
  | '-' :: r => (signed? r).map fun (n, r) => (-(n : Int), r)
  | '+' :: r => (signed? r).map fun (n, r) => ((n : Int), r)
  | r => (number? 4 r).map fun (n, r) => ((n : Int), r)
where
  /-- The digits after a sign follow it at once. -/
  signed? (r : List Char) : Option (Nat × List Char) :=
    let ds := r.takeWhile isDigit
    if ds.isEmpty then none else some (value ds, r.drop ds.length)

/-- A character that has to come next, after any white space. -/
def mark? (c : Char) (cs : List Char) : Option (List Char) :=
  match dropBlank cs with
  | d :: r => if d = c then some r else none
  | [] => none

/-- The digits of a second after a point, of which nine count. -/
def fraction? : List Char → Option (Nat × List Char)
  | '.' :: r =>
    let ds := r.takeWhile isDigit
    if ds.isEmpty then none
    else
      let kept := ds.take 9
      some (value kept * Nat.pow 10 (9 - kept.length), r.drop ds.length)
  | r => some (0, r)

/-- The minutes of an offset, which a colon or white space may set off from the hours. -/
def offsetMinutes? (cs : List Char) : Option (Nat × List Char) :=
  match cs.dropWhile (fun c => c == ':' || isBlankChar c) with
  | a :: b :: r =>
    if '0' ≤ a ∧ a ≤ '5' ∧ isDigit b then some (digitValue a * 10 + digitValue b, r) else none
  | _ => none

/-- An offset from UTC in seconds: `Z`, `UTC`, or a sign with hours and minutes. -/
def offset? (cs : List Char) : Option (Int × List Char) :=
  let signed (negative : Bool) : List Char → Option (Int × List Char)
    | a :: b :: r =>
      if isDigit a ∧ isDigit b then
        (offsetMinutes? r).map fun (minutes, r) =>
          let s : Int := ((digitValue a * 10 + digitValue b) * 3600 + minutes * 60 : Nat)
          (if negative then -s else s, r)
      else none
    | _ => none
  match cs with
  | 'Z' :: r | 'z' :: r => some (0, r)
  | '+' :: r => signed false r
  | '-' :: r | '\u2212' :: r => signed true r
  | u :: t :: c :: r =>
    if (u = 'U' ∨ u = 'u') ∧ (t = 'T' ∨ t = 't') ∧ (c = 'C' ∨ c = 'c') then some (0, r) else none
  | _ => none

/-- The years a moment may lie in. -/
def yearInRange (year : Int) : Bool := -262143 ≤ year && year ≤ 262142

/-- The moment with these parts, if they exist in the calendar. The offset is less than a day. A
sixtieth second is the leap second of the minute. -/
def ofParts? (date : Date) (hour minute second nanosecond : Nat) (offset : Int) :
    Option Moment :=
  if ¬ (yearInRange date.year ∧ date.isValid) then none
  else if 24 ≤ hour ∨ 60 ≤ minute ∨ 60 < second then none
  else if ¬ (-86400 < offset ∧ offset < 86400) then none
  else
    let m : Moment :=
      if second = 60 then ⟨date, hour, minute, 59, nanosecond + 1000000000⟩
      else ⟨date, hour, minute, second, nanosecond⟩
    let m := m.before offset
    if yearInRange m.date.year then some m else none

/-- The moment that a list of characters spells. -/
def parseChars? (cs : List Char) : Option Moment := do
  let (year, cs) ← year? cs
  let cs ← mark? '-' cs
  let (month, cs) ← number? 2 cs
  let cs ← mark? '-' cs
  let (day, cs) ← number? 2 cs
  let cs ← match cs with
    | 'T' :: r | 't' :: r | ' ' :: r => some r
    | _ => none
  let (hour, cs) ← number? 2 cs
  let cs ← mark? ':' cs
  let (minute, cs) ← number? 2 cs
  let cs ← mark? ':' cs
  let (second, cs) ← number? 2 cs
  let (nanosecond, cs) ← fraction? cs
  let (offset, cs) ← offset? (dropBlank cs)
  if (dropBlank cs).isEmpty then ofParts? ⟨year, month, day⟩ hour minute second nanosecond offset
  else none

/-- The moment that a text spells. -/
def parse? (s : String) : Option Moment := parseChars? s.toList

end Moment

end AdminConsole.Time
