import AdminConsole.Http.Path

/-!
# The parts of a path

A path has one place at which its query or fragment begins. `Path.Parts` says what that place is, and
`Path.cut` finds it (`Path.parts_cut`, `Path.Parts.cut_eq`). What holds neither `?` nor `#` does not
reach over that place, so a path begins with it exactly if the path without query and fragment does
(`Path.Parts.begins_eq`).

The slash in front of a path makes no difference to an address, which gets one where there is none
(`Address.join_rooted`).
-/

namespace AdminConsole

namespace Path

/-- A text without the marks that a query and a fragment begin with. -/
def IsPlain (s : String) : Prop := ∀ c ∈ s.toList, c ≠ '?' ∧ c ≠ '#'

instance (s : String) : Decidable (IsPlain s) :=
  decidable_of_iff ((s.toList.all fun c => c != '?' && c != '#') = true) (by simp [IsPlain])

/-- A query or a fragment: a text that begins with one of their marks. -/
def IsTail (s : String) : Prop := s.toList.head? = some '?' ∨ s.toList.head? = some '#'

instance (s : String) : Decidable (IsTail s) :=
  inferInstanceAs (Decidable (s.toList.head? = some '?' ∨ s.toList.head? = some '#'))

/-- The parts of a path: what comes before its first `?` or `#`, and the rest, if there is any. -/
structure Parts (path route tail : String) : Prop where
  eq_append : path = route ++ tail
  plain : IsPlain route
  tail : tail = "" ∨ IsTail tail

/-! ### Beginnings -/

theorem begins_iff {start path : String} :
    begins start path = true ↔ ∃ rest, path = start ++ rest := by
  rw [begins, List.isPrefixOf_iff_prefix]
  constructor
  · rintro ⟨rest, hrest⟩
    refine ⟨String.ofList rest, String.toList_injective ?_⟩
    rw [String.toList_append, String.toList_ofList, hrest]
  · rintro ⟨rest, rfl⟩
    rw [String.toList_append]
    exact List.prefix_append _ _

theorem begins_trans {a b c : String} (hab : begins a b = true) (hbc : begins b c = true) :
    begins a c = true := by
  obtain ⟨s, rfl⟩ := begins_iff.mp hab
  obtain ⟨t, rfl⟩ := begins_iff.mp hbc
  exact begins_iff.mpr ⟨s ++ t, String.append_assoc⟩

/-! ### Cutting -/

/-- A text without marks lies before every place to cut at. -/
theorem cut_append {start : String} (h : IsPlain start) (rest : String) :
    cut (start ++ rest) = start ++ cut rest := by
  refine String.toList_injective ?_
  simp only [cut, cutChars, String.toList_append, String.toList_ofList]
  exact List.takeWhile_append_of_pos fun c hc => by simpa using h c hc

theorem cut_of_isTail {tail : String} (h : IsTail tail) : cut tail = "" := by
  rw [cut, cutChars]
  cases hlist : tail.toList with
  | nil => rfl
  | cons c rest =>
    simp only [IsTail, hlist, List.head?_cons, Option.some.injEq] at h
    obtain rfl | rfl := h <;> rfl

theorem isPlain_cut (path : String) : IsPlain (cut path) := by
  intro c hc
  rw [cut, String.toList_ofList] at hc
  simpa using List.all_eq_true.mp List.all_takeWhile c hc

theorem parts_cut (path : String) : ∃ tail, Parts path (cut path) tail := by
  refine ⟨String.ofList (path.toList.dropWhile fun c => c != '?' && c != '#'), ?_,
    isPlain_cut path, ?_⟩
  · refine String.toList_injective ?_
    rw [String.toList_append, cut, String.toList_ofList, String.toList_ofList]
    exact List.takeWhile_append_dropWhile.symm
  · cases hrest : path.toList.dropWhile fun c => c != '?' && c != '#' with
    | nil => exact Or.inl rfl
    | cons c rest =>
      -- the first character that is dropped no more is a mark
      have hmark := List.head?_dropWhile_not (fun c => c != '?' && c != '#') path.toList
      rw [hrest] at hmark
      refine Or.inr ?_
      simp only [IsTail, String.toList_ofList, List.head?_cons, Option.some.injEq]
      by_cases hquery : c = '?'
      · exact Or.inl hquery
      · exact Or.inr (by simpa [hquery] using hmark)

namespace Parts

variable {path route tail : String} (h : Parts path route tail)
include h

/-- There is one place only to cut a path at. -/
theorem cut_eq : cut path = route := by
  obtain ⟨rfl, hplain, htail⟩ := h
  have hrest : cut tail = "" := by
    obtain rfl | htail := htail
    · rfl
    · exact cut_of_isTail htail
  rw [cut_append hplain, hrest, String.append_empty]

/-- What holds no mark begins a path exactly if it begins the route. -/
theorem begins_eq {start : String} (hstart : IsPlain start) :
    begins start path = begins start route := by
  rw [Bool.eq_iff_iff]
  constructor
  · intro hbegins
    obtain ⟨rest, hpath⟩ := begins_iff.mp hbegins
    -- the cut falls into what follows the start
    have hroute : route = start ++ cut rest := by
      rw [← h.cut_eq, hpath, cut_append hstart]
    exact begins_iff.mpr ⟨_, hroute⟩
  · intro hbegins
    exact begins_trans hbegins (begins_iff.mpr ⟨tail, h.eq_append⟩)

end Parts

theorem begins_cut {start : String} (h : IsPlain start) (path : String) :
    begins start (cut path) = begins start path := by
  obtain ⟨tail, hparts⟩ := parts_cut path
  exact (hparts.begins_eq h).symm

theorem IsPlain.cut_eq {path : String} (h : IsPlain path) : cut path = path :=
  Parts.cut_eq ⟨(String.append_empty).symm, h, Or.inl rfl⟩

end Path

namespace Address

/-- A path without a slash in front of it goes to the same address as the one with the slash. -/
theorem join_rooted {path : String} (h : Path.begins "/" path = false) (address : String) :
    join address ("/" ++ path) = join address path := by
  have hrooted : Path.begins "/" ("/" ++ path) = true := Path.begins_iff.mpr ⟨path, rfl⟩
  rw [join, join, below, below, if_pos hrooted, h, if_neg Bool.false_ne_true, String.append_assoc]

end Address

end AdminConsole
