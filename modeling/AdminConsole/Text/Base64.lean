/-!
# Base64

Bytes in groups of three as four characters of six bits each. A last group that is shorter is filled
up with equals signs.
-/

namespace AdminConsole.Text.Base64

/-- The character that stands for six bits. -/
def symbol (n : Nat) : Char :=
  if n < 26 then Char.ofNat (65 + n)
  else if n < 52 then Char.ofNat (71 + n)
  else if n < 62 then Char.ofNat (n - 4)
  else if n = 62 then '+'
  else '/'

/-- The first `count` of the four characters that stand for 24 bits. -/
def symbols (count bits : Nat) : List Char :=
  ([bits / 262144, bits / 4096 % 64, bits / 64 % 64, bits % 64].map symbol).take count

/-- The Base64 form of bytes. -/
def encode : List UInt8 → List Char
  | [] => []
  | [a] => symbols 2 (65536 * a.toNat) ++ ['=', '=']
  | [a, b] => symbols 3 (65536 * a.toNat + 256 * b.toNat) ++ ['=']
  | a :: b :: c :: r => symbols 4 (65536 * a.toNat + 256 * b.toNat + c.toNat) ++ encode r

end AdminConsole.Text.Base64
