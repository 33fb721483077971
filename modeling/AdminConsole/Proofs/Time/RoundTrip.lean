import AdminConsole.Proofs.Text.Digits
import AdminConsole.Time.Rfc3339

/-!
# Moments that are written and read back

A moment that exists (`Moment.IsValid`) is read back from its text to the nanosecond, leap seconds
included (`Moment.parse?_render`).

All that is written about a moment is fields of digits with marks between them. A field of a fixed
width is read back because its width is the most that the reader takes (`number?_padded`); a year
outside of 0 to 9999 and the part of a second are as long as they need to be, and end where a mark
follows.
-/

namespace AdminConsole.Time.Moment

open AdminConsole.Text

/-- A moment that exists in the calendar. The nanoseconds of a leap second, which belongs to the
last second of a minute, run on past one billion. -/
structure IsValid (m : Moment) : Prop where
  year : yearInRange m.date.year = true
  date : m.date.isValid = true
  hour : m.hour < 24
  minute : m.minute < 60
  second : m.second < 60
  nanosecond : m.nanosecond < 1000000000 ∨ m.second = 59 ∧ m.nanosecond < 2000000000

/-! ### Fields -/

/-- Nothing is dropped in front of a digit. -/
theorem dropBlank_append {ds : List Char} (hne : ds ≠ []) (hds : ∀ c ∈ ds, isDigit c = true)
    (rest : List Char) : dropBlank (ds ++ rest) = ds ++ rest := by
  obtain ⟨d, ds, rfl⟩ := List.exists_cons_of_ne_nil hne
  exact dropBlank_cons (isBlankChar_of_isDigit (hds d List.mem_cons_self)) _

theorem padded_ne_nil {width : Nat} (hwidth : 0 < width) (n : Nat) : padded width n ≠ [] := by
  intro hnil
  have hlength := length_padded width n
  rw [hnil] at hlength
  exact absurd hlength (Nat.ne_of_lt hwidth)

/-- A field of a fixed width is read back. -/
theorem number?_padded {width n : Nat} (hwidth : 0 < width) (h : n < Nat.pow 10 width)
    (rest : List Char) : number? width (padded width n ++ rest) = some (n, rest) := by
  have hdigits : ∀ c ∈ padded width n, isDigit c = true := fun _ => isDigit_of_mem_padded
  have hne := padded_ne_nil hwidth n
  have hfield : ((padded width n ++ rest).take width).takeWhile isDigit = padded width n := by
    rw [List.take_left' (length_padded width n)]
    have hall : (padded width n ++ []).takeWhile isDigit = padded width n :=
      takeWhile_isDigit_append hdigits nofun
    rwa [List.append_nil] at hall
  simp only [number?, dropBlank_append hne hdigits, hfield, value_padded h, List.drop_left,
    List.isEmpty_iff, hne, if_false]

/-- A mark is read at once where it stands. -/
theorem mark?_cons {c : Char} (h : isBlankChar c = false) (rest : List Char) :
    mark? c (c :: rest) = some rest := by
  simp only [mark?, dropBlank_cons h, if_true]

/-- A run of digits after a sign is read to its end. -/
theorem signed?_append {ds rest : List Char} (hne : ds ≠ []) (hds : ∀ c ∈ ds, isDigit c = true)
    (hrest : ∀ c ∈ rest.head?, isDigit c = false) :
    year?.signed? (ds ++ rest) = some (value ds, rest) := by
  simp only [year?.signed?, takeWhile_isDigit_append hds hrest, List.drop_left, List.isEmpty_iff,
    hne, if_false]

/-- A year without a sign. -/
theorem year?_of_isDigit {c : Char} (h : isDigit c = true) (cs : List Char) :
    year? (c :: cs) = (number? 4 (c :: cs)).map fun (n, r) => ((n : Int), r) := by
  rw [year?, dropBlank_cons (isBlankChar_of_isDigit h)]
  split
  · rename_i r heq
    obtain ⟨rfl, -⟩ := List.cons.inj heq
    exact absurd h (by decide)
  · rename_i r heq
    obtain ⟨rfl, -⟩ := List.cons.inj heq
    exact absurd h (by decide)
  · rfl

theorem year?_minus (cs : List Char) :
    year? ('-' :: cs) = (year?.signed? cs).map fun (n, r) => (-(n : Int), r) := rfl

theorem year?_plus (cs : List Char) :
    year? ('+' :: cs) = (year?.signed? cs).map fun (n, r) => ((n : Int), r) := rfl

/-- A year is read back, with and without a sign. -/
theorem year?_yearText (year : Int) {rest : List Char}
    (hrest : ∀ c ∈ rest.head?, isDigit c = false) :
    year? (yearText year ++ rest) = some (year, rest) := by
  have hzeros : ∀ c ∈ List.replicate (4 - (digits year.natAbs).length) '0' ++ digits year.natAbs,
      isDigit c = true := by
    intro c hc
    obtain hzero | hdigit := List.mem_append.mp hc
    · rw [List.eq_of_mem_replicate hzero]
      rfl
    · exact isDigit_of_mem_digits hdigit
  have hsigned := signed?_append (by simp [digits_ne_nil]) hzeros hrest
  rw [value_replicate_append, value_digits] at hsigned
  unfold yearText
  split_ifs with hrange hneg
  · have hne := padded_ne_nil (by decide : 0 < 4) year.natAbs
    obtain ⟨c, cs, hcs⟩ := List.exists_cons_of_ne_nil hne
    have hc : isDigit c = true := isDigit_of_mem_padded (hcs ▸ List.mem_cons_self)
    have hlt : year.natAbs < 10000 := by omega
    have hnumber : number? 4 (padded 4 year.natAbs ++ rest) = some (year.natAbs, rest) :=
      number?_padded (by decide) hlt rest
    rw [hcs, List.cons_append] at hnumber ⊢
    have hyear : (year.natAbs : Int) = year := Int.natAbs_of_nonneg hrange.1
    simp only [year?_of_isDigit hc, hnumber, Option.map_some, hyear]
  · have hyear : -(year.natAbs : Int) = year := by omega
    simp only [List.cons_append, year?_minus, hsigned, Option.map_some, hyear]
  · have hyear : (year.natAbs : Int) = year := by omega
    simp only [List.cons_append, year?_plus, hsigned, Option.map_some, hyear]

/-- A part of a second is read back from so many digits, nine at most, if they stand for it. -/
theorem fraction?_padded {width n nanosecond : Nat} (hwidth : 0 < width ∧ width ≤ 9)
    (h : n < Nat.pow 10 width) (hn : n * Nat.pow 10 (9 - width) = nanosecond) {rest : List Char}
    (hrest : ∀ c ∈ rest.head?, isDigit c = false) :
    fraction? ('.' :: padded width n ++ rest) = some (nanosecond, rest) := by
  have hdigits : ∀ c ∈ padded width n, isDigit c = true := fun _ => isDigit_of_mem_padded
  have hkept : (padded width n).take 9 = padded width n :=
    List.take_of_length_le (by rw [length_padded]; exact hwidth.2)
  simp only [fraction?, List.cons_append, takeWhile_isDigit_append hdigits hrest, hkept,
    value_padded h, length_padded, List.drop_left' (length_padded width n), List.isEmpty_iff,
    padded_ne_nil hwidth.1 n, if_false, hn]

/-- The part of a second is read back in front of the letter that stands for the offset. -/
theorem fraction?_fractionText {nanosecond : Nat} (h : nanosecond < 1000000000)
    (rest : List Char) :
    fraction? (fractionText nanosecond ++ 'Z' :: rest) = some (nanosecond, 'Z' :: rest) := by
  have hend : ∀ c ∈ ('Z' :: rest).head?, isDigit c = false := by
    rintro c hc
    obtain rfl := Option.some.inj hc
    rfl
  unfold fractionText
  split_ifs with hzero hmilli hmicro
  · rw [hzero]
    rfl
  · have hlt : nanosecond / 1000000 < 1000 := by omega
    have hback : nanosecond / 1000000 * 1000000 = nanosecond := by omega
    exact fraction?_padded (by decide) hlt hback hend
  · have hlt : nanosecond / 1000 < 1000000 := by omega
    have hback : nanosecond / 1000 * 1000 = nanosecond := by omega
    exact fraction?_padded (by decide) hlt hback hend
  · exact fraction?_padded (by decide) h nanosecond.mul_one hend

/-! ### Moments -/

/-- The second that is written: in a leap second it is the sixtieth. -/
def writtenSecond (m : Moment) : Nat :=
  if 1000000000 ≤ m.nanosecond then m.second + 1 else m.second

/-- The part of the written second. -/
def writtenNanosecond (m : Moment) : Nat :=
  if 1000000000 ≤ m.nanosecond then m.nanosecond - 1000000000 else m.nanosecond

theorem renderChars_eq (m : Moment) :
    m.renderChars = yearText m.date.year ++ '-' :: (padded 2 m.date.month ++ '-' ::
      (padded 2 m.date.day ++ 'T' :: (padded 2 m.hour ++ ':' :: (padded 2 m.minute ++ ':' ::
        (padded 2 m.writtenSecond ++ (fractionText m.writtenNanosecond ++ ['Z'])))))) := rfl

namespace IsValid

variable {m : Moment}

theorem month_lt (h : m.IsValid) : m.date.month < 100 := by
  have hdate := h.date
  simp only [Date.isValid, Bool.and_eq_true, decide_eq_true_eq] at hdate
  omega

theorem day_lt (h : m.IsValid) : m.date.day < 100 := by
  have hdate := h.date
  have hdays : daysInMonth m.date.year m.date.month ≤ 31 := by
    unfold daysInMonth
    split_ifs <;> decide
  simp only [Date.isValid, Bool.and_eq_true, decide_eq_true_eq] at hdate
  omega

/-- The sixtieth second is written for leap seconds only, which lie in the fifty-ninth. -/
theorem writtenSecond_le (h : m.IsValid) : m.writtenSecond ≤ 60 := by
  have hsecond := h.second
  unfold writtenSecond
  split_ifs <;> omega

theorem writtenNanosecond_lt (h : m.IsValid) : m.writtenNanosecond < 1000000000 := by
  have hnanosecond := h.nanosecond
  unfold writtenNanosecond
  split_ifs <;> omega

/-- What is written of the second tells leap seconds from others. -/
theorem ofWritten (h : m.IsValid) :
    (if m.writtenSecond = 60 then
      ⟨m.date, m.hour, m.minute, 59, m.writtenNanosecond + 1000000000⟩
    else ⟨m.date, m.hour, m.minute, m.writtenSecond, m.writtenNanosecond⟩) = m := by
  have hsecond := h.second
  have hnanosecond := h.nanosecond
  unfold writtenSecond writtenNanosecond
  by_cases hleap : 1000000000 ≤ m.nanosecond
  · have hlast : m.second = 59 := by omega
    have hback : m.nanosecond - 1000000000 + 1000000000 = m.nanosecond := by omega
    simp only [hleap, if_true, hlast, hback]
    rw [← hlast]
  · have hlast : m.second ≠ 60 := by omega
    simp only [hleap, if_false, hlast]

/-- The written parts of a moment that exists make it up again. -/
theorem ofParts?_eq (h : m.IsValid) :
    ofParts? m.date m.hour m.minute m.writtenSecond m.writtenNanosecond 0 = some m := by
  have hhour := h.hour
  have hminute := h.minute
  have hsecond := h.writtenSecond_le
  rw [ofParts?, if_neg (by simp [h.year, h.date]), if_neg (by omega), if_neg (by omega)]
  simp only [h.ofWritten, before, if_true, h.year]

end IsValid

/-- **A moment is read back from its text**, to the nanosecond. -/
theorem parse?_render {m : Moment} (h : m.IsValid) : parse? m.render = some m := by
  have hfield (n : Nat) (hn : n < 100) (rest : List Char) :
      number? 2 (padded 2 n ++ rest) = some (n, rest) := number?_padded (by decide) hn rest
  have hhour := h.hour
  have hminute := h.minute
  have hsecond := h.writtenSecond_le
  have hyear (cs : List Char) :
      year? (yearText m.date.year ++ '-' :: cs) = some (m.date.year, '-' :: cs) := by
    refine year?_yearText m.date.year ?_
    rintro c hc
    obtain rfl := Option.some.inj hc
    rfl
  have hminus (cs : List Char) : mark? '-' ('-' :: cs) = some cs := mark?_cons rfl cs
  have hcolon (cs : List Char) : mark? ':' (':' :: cs) = some cs := mark?_cons rfl cs
  have hend : offset? (dropBlank ['Z']) = some (0, []) := rfl
  simp only [parse?, render, String.toList_ofList, renderChars_eq, parseChars?, hyear, hminus,
    hcolon, hfield _ h.month_lt, hfield _ h.day_lt, hfield m.hour (by omega),
    hfield m.minute (by omega), hfield m.writtenSecond (by omega),
    fraction?_fractionText h.writtenNanosecond_lt, hend, Option.bind_eq_bind, Option.bind_some]
  exact h.ofParts?_eq

end AdminConsole.Time.Moment
