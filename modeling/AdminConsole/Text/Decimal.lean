/-!
# Decimal digits

Natural numbers as decimal digits and back. `value_digits` says that reading undoes writing.
-/

namespace AdminConsole.Text

/-- An ASCII decimal digit. -/
def isDigit (c : Char) : Bool := '0' ≤ c && c ≤ '9'

/-- What a decimal digit stands for. -/
def digitValue (c : Char) : Nat := c.toNat - 48

/-- The digit that stands for a number below ten. -/
def digitChar (n : Nat) : Char := Char.ofNat (48 + n)

/-- The decimal digits of a number, without leading zeros. -/
def digits (n : Nat) : List Char :=
  if n < 10 then [digitChar n] else digits (n / 10) ++ [digitChar (n % 10)]

/-- The number a list of digits stands for. -/
def value (cs : List Char) : Nat := cs.foldl (fun v c => 10 * v + digitValue c) 0

/-- The last `width` decimal digits of a number, with leading zeros where they are needed. -/
def padded (width n : Nat) : List Char :=
  match width with
  | 0 => []
  | w + 1 => padded w (n / 10) ++ [digitChar (n % 10)]

theorem digitValue_digitChar {n : Nat} (h : n < 10) : digitValue (digitChar n) = n := by
  have : ∀ k : Fin 10, digitValue (digitChar k.val) = k.val := by decide
  exact this ⟨n, h⟩

theorem isDigit_digitChar {n : Nat} (h : n < 10) : isDigit (digitChar n) = true := by
  have : ∀ k : Fin 10, isDigit (digitChar k.val) = true := by decide
  exact this ⟨n, h⟩

/-- Reading the digits of a number gives the number back. -/
theorem value_digits (n : Nat) : value (digits n) = n := by
  induction n using Nat.strongRecOn with
  | ind n ih =>
    unfold digits
    split
    · rename_i h
      simp [value, digitValue_digitChar h]
    · rename_i h
      have hlt : n / 10 < n := by omega
      have hmod : n % 10 < 10 := by omega
      have := ih (n / 10) hlt
      simp only [value, List.foldl_append, List.foldl_cons, List.foldl_nil] at this ⊢
      rw [this, digitValue_digitChar hmod]
      omega

/-- The text of a natural number. -/
def natText (n : Nat) : String := String.ofList (digits n)

/-- The text of an integer. -/
def intText (i : Int) : String :=
  if i < 0 then String.ofList ('-' :: digits i.natAbs) else natText i.natAbs

end AdminConsole.Text
