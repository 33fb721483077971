import AdminConsole.Domain.Name
import AdminConsole.Http.Percent
import AdminConsole.Text.Decimal

/-!
# Hosts

What a URL is about can lie at a host: a name, or an address of one of two kinds. An IPv4 address
has four bytes and may come in fewer numbers, also octal and hexadecimal ones; an IPv6 address has
eight groups of two bytes, and is written with its longest run of zeros left out. So two texts for
one address give the same text.

A name is read as a domain name if the scheme says where names are looked up (`ofDomain?`), and as
it stands otherwise (`ofText?`).
-/

namespace AdminConsole

open AdminConsole.Text

/-- Where something is. -/
inductive UrlHost where
  | name (text : String)
  | ipv4 (address : Nat)
  | ipv6 (groups : List Nat)
  deriving Repr, DecidableEq, Inhabited

namespace UrlHost

/-! ### IPv4 addresses -/

/-- A number in an IPv4 address: decimal, octal behind a zero, or hexadecimal. -/
def ipv4Number? (cs : List Char) : Option Nat :=
  let read (base : Nat) (ds : List Char) : Option Nat :=
    ds.foldlM (fun n c => (hexValue? c).bind fun d =>
      if d < base then some (base * n + d) else none) 0
  match cs with
  | [] => none
  | '0' :: 'x' :: r => read 16 r
  | '0' :: c :: r => read 8 (c :: r)
  | _ => read 10 cs

/-- The IPv4 address of up to four numbers, of which the last fills all bytes that are left. -/
def ipv4? (numbers : List Nat) : Option Nat :=
  let front := numbers.dropLast
  let last := numbers.getLast?.getD 0
  if 4 < numbers.length ∨ front.any (255 < ·) ∨ Nat.pow 256 (5 - numbers.length) ≤ last then none
  else some (front.zipIdx.foldl (fun sum (n, i) => sum + n * Nat.pow 256 (3 - i)) last)

/-- The numbers of an IPv4 address. -/
def ipv4Text (address : Nat) : String :=
  ".".intercalate ([3, 2, 1, 0].map fun i => natText (address / Nat.pow 256 i % 256))

/-! ### IPv6 addresses -/

/-- A group: one to four hexadecimal digits. -/
def ipv6Group? (cs : List Char) : Option Nat :=
  if cs = [] ∨ 4 < cs.length then none
  else cs.foldlM (fun n c => (hexValue? c).map fun d => 16 * n + d) 0

/-- A byte in decimal digits, without leading zeros. -/
def decimalByte? (cs : List Char) : Option Nat :=
  if cs = [] ∨ ¬ cs.all isDigit ∨ (cs.head? = some '0' ∧ cs ≠ ['0']) ∨ 255 < value cs then none
  else some (value cs)

/-- The two groups that four bytes in decimal digits stand for. -/
def dottedGroups? (cs : List Char) : Option (List Nat) :=
  match (pieces (· == '.') cs).mapM decimalByte? with
  | some [a, b, c, d] => some [256 * a + b, 256 * c + d]
  | _ => none

/-- The groups of texts, of which the last may be four bytes in decimal digits. -/
def ipv6Groups? : List (List Char) → Option (List Nat)
  | [] => some []
  | [cs] => if cs.contains '.' then dottedGroups? cs else (ipv6Group? cs).map fun g => [g]
  | cs :: rest => do return (← ipv6Group? cs) :: (← ipv6Groups? rest)

/-- A text with colons as its groups; nothing has none. -/
def colonGroups? (cs : List Char) : Option (List Nat) :=
  if cs = [] then some [] else ipv6Groups? (pieces (· == ':') cs)

/-- The part in front of the first two colons in a row, and the part behind them if there are
such. -/
def cutAtDoubleColon : List Char → List Char × Option (List Char)
  | ':' :: ':' :: r => ([], some r)
  | c :: r =>
    let (front, behind) := cutAtDoubleColon r
    (c :: front, behind)
  | [] => ([], none)

/-- The eight groups of an IPv6 address. Two colons in a row stand for one group of zero at least,
and for as many as are missing. -/
def ipv6? (cs : List Char) : Option (List Nat) :=
  match cutAtDoubleColon cs with
  | (front, none) => (colonGroups? front).filter fun gs => gs.length = 8
  | (front, some behind) => do
    if front.contains '.' then none
    else
      let gs ← colonGroups? front
      let gs' ← colonGroups? behind
      if 7 < gs.length + gs'.length then none
      else some (gs ++ List.replicate (8 - (gs.length + gs'.length)) 0 ++ gs')

/-- Where the first of the longest runs of zeros begins, and its length. -/
def longestZeros (groups : List Nat) : Nat × Nat :=
  let run (i : Nat) : Nat := ((groups.drop i).takeWhile (· == 0)).length
  (List.range groups.length).foldl
    (fun best i => if best.2 < run i then (i, run i) else best) (0, 0)

/-- The groups of an IPv6 address, with two colons for the longest run of two zeros or more. -/
def ipv6Text (groups : List Nat) : String :=
  let join (gs : List Nat) : String := ":".intercalate (gs.map (String.ofList ∘ hexDigits))
  let (start, length) := longestZeros groups
  if length < 2 then join groups
  else join (groups.take start) ++ "::" ++ join (groups.drop (start + length))

/-! ### Reading and writing -/

/-- An IPv6 address behind its opening bracket. -/
def bracketed? (cs : List Char) : Option UrlHost :=
  if cs.getLast? = some ']' then (ipv6? cs.dropLast).map .ipv6 else none

/-- The host that the form of a domain name stands for: an address, if the last label is a
number. -/
def ofName? (name : List Char) : Option UrlHost :=
  let labels := pieces (· == '.') name
  let labels := if labels.getLast? = some [] then labels.dropLast else labels
  let last := labels.getLast?.getD []
  if last ≠ [] ∧ (last.all isDigit ∨ (ipv4Number? last).isSome) then
    ((labels.mapM ipv4Number?).bind ipv4?).map .ipv4
  else some (.name (String.ofList name))

/-- The host that a text stands for, where names are domain names. -/
def ofDomain? : List Char → Option UrlHost
  | '[' :: r => bracketed? r
  | cs => do
    let name ← Domain.toAscii? (← Percent.decode? cs).toList
    if name = [] then none else ofName? name

/-- The characters that no name has. -/
def nameForbidden : List Char := "\x00\t\n\r #/:<>?@[\\]^|".toList

/-- The host that a text stands for, where names are any texts. -/
def ofText? : List Char → Option UrlHost
  | '[' :: r => bracketed? r
  | cs =>
    if cs.any nameForbidden.contains then none
    else some (.name (String.ofList (Percent.encode [] cs)))

/-- A host as it is looked up. -/
def bareText : UrlHost → String
  | .name s => s
  | .ipv4 address => ipv4Text address
  | .ipv6 groups => ipv6Text groups

/-- A host as it stands in a URL. -/
def text : UrlHost → String
  | .ipv6 groups => "[" ++ ipv6Text groups ++ "]"
  | h => h.bareText

end UrlHost

end AdminConsole
