import AdminConsole.Text.Blank
import AdminConsole.Text.Decimal
import Mathlib.Tactic.SplitIfs

/-!
# Fields of digits

What a reader of digits meets in the two ways of writing a number: `digits`, which are as many as
the number needs, and `padded`, which are as many as the field has. Both consist of digits, none of
which is blank, so a reader that takes digits for as long as there are some takes exactly the field
(`takeWhile_isDigit_append`); and both have the value of the number (`value_digits`,
`value_padded`).
-/

namespace AdminConsole.Text

theorem value_append_singleton (ds : List Char) (d : Char) :
    value (ds ++ [d]) = 10 * value ds + digitValue d := by
  simp only [value, List.foldl_append, List.foldl_cons, List.foldl_nil]

/-- Zeros in front of a number do not count. -/
theorem value_replicate_append (k : Nat) (ds : List Char) :
    value (List.replicate k '0' ++ ds) = value ds := by
  induction k with
  | zero => rfl
  | succ k ih => exact ih

theorem toNat_of_isDigit {c : Char} (h : isDigit c = true) : 48 ≤ c.toNat ∧ c.toNat ≤ 57 := by
  have hrange : '0' ≤ c ∧ c ≤ '9' := by
    simpa only [isDigit, Bool.and_eq_true, decide_eq_true_eq] using h
  exact hrange

theorem digitValue_lt {c : Char} (h : isDigit c = true) : digitValue c < 10 := by
  obtain ⟨-, hhigh⟩ := toNat_of_isDigit h
  rw [digitValue]
  omega

/-- A digit is the one that stands for its value. -/
theorem digitChar_digitValue {c : Char} (h : isDigit c = true) : digitChar (digitValue c) = c := by
  obtain ⟨hlow, -⟩ := toNat_of_isDigit h
  have hvalue : 48 + (c.toNat - 48) = c.toNat := by omega
  rw [digitChar, digitValue, hvalue, Char.ofNat_toNat]

/-! ### As many digits as needed -/

theorem exists_digits_eq_cons (n : Nat) : ∃ k < 10, ∃ cs, digits n = digitChar k :: cs := by
  induction n using Nat.strongRecOn with
  | ind n ih =>
    rw [digits]
    split_ifs with hn
    · exact ⟨n, hn, [], rfl⟩
    · obtain ⟨k, hk, cs, hcs⟩ := ih (n / 10) (by omega)
      exact ⟨k, hk, cs ++ [digitChar (n % 10)], by rw [hcs, List.cons_append]⟩

theorem digits_ne_nil (n : Nat) : digits n ≠ [] := by
  obtain ⟨k, -, cs, hcs⟩ := exists_digits_eq_cons n
  simp [hcs]

/-- A number that is not zero is written with other digits than zero is. -/
theorem digits_ne_zero {n : Nat} (hn : n ≠ 0) : digits n ≠ ['0'] := by
  intro h
  have hvalue := value_digits n
  rw [h] at hvalue
  exact hn hvalue.symm

/-- Only zero is written with a zero in front. -/
theorem digits_eq_zero_of_head? {n : Nat} (h : (digits n).head? = some '0') :
    digits n = ['0'] := by
  induction n using Nat.strongRecOn with
  | ind n ih =>
    rw [digits] at h ⊢
    split_ifs at h ⊢ with hn
    · rw [← Option.some.inj h]
    · have hhead : (digits (n / 10)).head? = some '0' := by
        obtain ⟨k, -, cs, hcs⟩ := exists_digits_eq_cons (n / 10)
        rwa [hcs] at h ⊢
      exact absurd (ih (n / 10) (by omega) hhead) (digits_ne_zero (by omega))

theorem isDigit_of_mem_digits {n : Nat} {c : Char} (h : c ∈ digits n) : isDigit c = true := by
  induction n using Nat.strongRecOn with
  | ind n ih =>
    rw [digits] at h
    split_ifs at h with hn
    · rw [List.mem_singleton.mp h]
      exact isDigit_digitChar hn
    · obtain hmem | hlast := List.mem_append.mp h
      · exact ih (n / 10) (by omega) hmem
      · rw [List.mem_singleton.mp hlast]
        exact isDigit_digitChar (by omega)

/-! ### As many digits as the field has -/

@[simp] theorem length_padded (width n : Nat) : (padded width n).length = width := by
  induction width generalizing n with
  | zero => rfl
  | succ width ih => rw [padded, List.length_append, ih, List.length_singleton]

theorem isDigit_of_mem_padded {width n : Nat} {c : Char} (h : c ∈ padded width n) :
    isDigit c = true := by
  induction width generalizing n with
  | zero => cases h
  | succ width ih =>
    obtain hmem | hlast := List.mem_append.mp h
    · exact ih hmem
    · rw [List.mem_singleton.mp hlast]
      exact isDigit_digitChar (by omega)

/-- A number is read back from a field that is wide enough for it. -/
theorem value_padded {width n : Nat} (h : n < Nat.pow 10 width) : value (padded width n) = n := by
  induction width generalizing n with
  | zero =>
    have hone : n < 1 := h
    obtain rfl : n = 0 := by omega
    rfl
  | succ width ih =>
    have hten : n < Nat.pow 10 width * 10 := h
    have hlt : n / 10 < Nat.pow 10 width := by omega
    rw [padded, value_append_singleton, ih hlt, digitValue_digitChar (by omega)]
    omega

/-! ### Where digits begin and end -/

theorem isBlankChar_of_isDigit {c : Char} (h : isDigit c = true) : isBlankChar c = false := by
  obtain ⟨hlow, hhigh⟩ := toNat_of_isDigit h
  simp only [isBlankChar, Bool.or_eq_false_iff, Bool.and_eq_false_iff, beq_eq_false_iff_ne,
    decide_eq_false_iff_not]
  omega

/-- White space in front of something else is all that is dropped. -/
theorem dropBlank_cons {c : Char} (h : isBlankChar c = false) (cs : List Char) :
    dropBlank (c :: cs) = c :: cs := List.dropWhile_cons_of_neg (by simp [h])

/-- Digits end where something else follows. -/
theorem takeWhile_isDigit_append {ds rest : List Char} (hds : ∀ c ∈ ds, isDigit c = true)
    (hrest : ∀ c ∈ rest.head?, isDigit c = false) : (ds ++ rest).takeWhile isDigit = ds := by
  rw [List.takeWhile_append_of_pos hds]
  cases rest with
  | nil => exact List.append_nil ds
  | cons c rest => rw [List.takeWhile_cons_of_neg (by simp [hrest c rfl]), List.append_nil]

end AdminConsole.Text
