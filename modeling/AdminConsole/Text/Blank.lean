/-!
# Blank text

A credential that holds nothing but white space counts as no credential. White space is the
Unicode property `White_Space`, so the no-break space U+00A0 is blank while the zero-width space
U+200B and the byte order mark U+FEFF are not.

`nonBlank?` is the one normalisation every credential setter goes through; `nonBlank?_eq_some_iff`
says exactly what it lets pass.
-/

namespace AdminConsole.Text

/-- A character with the Unicode property `White_Space`. -/
def isBlankChar (c : Char) : Bool :=
  let n := c.toNat
  (0x09 ≤ n && n ≤ 0x0D) || n == 0x20 || n == 0x85 || n == 0xA0 || n == 0x1680 ||
    (0x2000 ≤ n && n ≤ 0x200A) || n == 0x2028 || n == 0x2029 || n == 0x202F || n == 0x205F ||
    n == 0x3000

/-- A text is **blank** when it is empty or made of white space only. -/
def isBlank (s : String) : Bool := s.toList.all isBlankChar

/-- The text itself, or nothing when it is blank. -/
def nonBlank? (s : String) : Option String := if isBlank s then none else some s

theorem nonBlank?_eq_some_iff {s t : String} :
    nonBlank? s = some t ↔ s = t ∧ isBlank s = false := by
  unfold nonBlank?
  cases h : isBlank s <;> simp

theorem nonBlank?_eq_none_iff {s : String} : nonBlank? s = none ↔ isBlank s = true := by
  unfold nonBlank?
  cases h : isBlank s <;> simp

/-- The text without the white space at its start. -/
def dropBlank : List Char → List Char := List.dropWhile isBlankChar

/-- The text without the white space at its two ends. -/
def trim (s : String) : String :=
  String.ofList (dropBlank (dropBlank s.toList).reverse).reverse

end AdminConsole.Text
