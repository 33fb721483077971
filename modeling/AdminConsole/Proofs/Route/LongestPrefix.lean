import AdminConsole.Proofs.Http.Path
import AdminConsole.Proofs.Route.Standard

/-!
# The longest prefix decides

Which entry of a route table decides about a path can be said of the list that was declared, without
the table that is made of it: among the entries that cover the path those with the longest prefix,
and among these the one declared first (`Route.Decides`). `RouteTable.classify_longest` says that
looking the path up comes to the same, whatever is declared.

The table is sorted, and the first entry in it that covers the path is taken. The order is by length
first, so it is one of the longest; prefixes of one path that are of one length are the same
(`Route.eq_of_length_eq`), so all of them have one prefix, and among entries of one prefix sorting
keeps the order of declaration (`Route.filter_mergeSort`). Whether an entry covers a path depends on
its prefix only, which is why dropping repetitions changes nothing (`Route.find?_dropRepeats`).
-/

namespace AdminConsole

namespace Route

/-! ### What a prefix covers -/

/-- A prefix **covers** a route that it begins, if it ends in a slash, or nothing follows it, or a
slash follows it. -/
def Covers (start route : String) : Prop :=
  ∃ rest, route = start ++ rest ∧
    (start.toList.getLast? = some '/' ∨ rest = "" ∨ Path.begins "/" rest = true)

theorem covers_append (start rest : String) :
    RouteTable.covers start (start ++ rest) =
      (start.toList.getLast? == some '/' || (rest == "" || Path.begins "/" rest)) := by
  have hbegins : start.toList.isPrefixOf (start.toList ++ rest.toList) = true :=
    List.isPrefixOf_iff_prefix.mpr (List.prefix_append _ _)
  rw [RouteTable.covers, String.toList_append, hbegins, List.drop_left, Bool.true_and]
  congr 1
  cases hlist : rest.toList with
  | nil =>
    obtain rfl : rest = "" := String.toList_injective hlist
    rfl
  | cons c more =>
    have hne : (rest == "") = false := by
      refine beq_eq_false_iff_ne.mpr ?_
      rintro rfl
      cases hlist
    have hslash : Path.begins "/" rest = ('/' == c) := by
      rw [Path.begins, hlist]
      exact Bool.and_true _
    rw [hne, hslash, Bool.false_or]
    exact Bool.beq_comm

theorem covers_iff {start route : String} :
    RouteTable.covers start route = true ↔ Covers start route := by
  constructor
  · intro h
    obtain ⟨rest, rfl⟩ := Path.begins_iff.mp (Bool.and_eq_true_iff.mp h).1
    rw [covers_append] at h
    exact ⟨rest, rfl, by simpa only [Bool.or_eq_true, beq_iff_eq] using h⟩
  · rintro ⟨rest, rfl, hend⟩
    rw [covers_append]
    simpa only [Bool.or_eq_true, beq_iff_eq] using hend

/-- Prefixes of one text that are of one length are the same. -/
theorem eq_of_length_eq {start start' route : String} (h : Covers start route)
    (h' : Covers start' route) (hlength : start.utf8ByteSize = start'.utf8ByteSize) :
    start = start' := by
  obtain ⟨rest, hrest, -⟩ := h
  obtain ⟨rest', hrest', -⟩ := h'
  -- the two beginnings end at one position of the text
  have hsplits : (String.Pos.ofEqAppend hrest).Splits start rest :=
    String.Pos.splits_ofEqAppend hrest
  refine hsplits.eq_left ⟨hrest', hsplits.offset_eq_rawEndPos.trans ?_⟩
  exact congrArg String.Pos.Raw.mk hlength

/-! ### Offsets in bytes -/

/-- What stands in a text from an offset in bytes on: nothing if the offset lies inside a
character. -/
def sliceFrom? (s : String) (offset : Nat) : Option String :=
  if h : String.Pos.Raw.IsValid s ⟨offset⟩ then some (s.sliceFrom (s.pos ⟨offset⟩ h)).copy
  else none

/-- Whether a prefix covers a path, found with lengths and an offset in bytes. There is no answer if
the offset lies inside a character. -/
def coversAt? (start path : String) : Option Bool :=
  if !Path.begins start path then some false
  else if start.toList.getLast? = some '/' ∨ path.utf8ByteSize = start.utf8ByteSize then some true
  else (sliceFrom? path start.utf8ByteSize).map (Path.begins "/")

theorem sliceFrom?_append (start rest : String) :
    sliceFrom? (start ++ rest) start.utf8ByteSize = some rest := by
  have hvalid : String.Pos.Raw.IsValid (start ++ rest) ⟨start.utf8ByteSize⟩ :=
    String.Pos.Raw.isValid_rawEndPos.append_right rest
  rw [sliceFrom?, dif_pos hvalid]
  exact congrArg some String.Pos.splits_append_rawEndPos.copy_sliceFrom_eq

/-- **No slice inside a character.** Where a prefix begins a path its length is the offset of a
character, or that of the end. -/
theorem coversAt?_eq (start path : String) :
    coversAt? start path = some (RouteTable.covers start path) := by
  rw [coversAt?]
  cases hbegins : Path.begins start path with
  | false =>
    have hcovers : RouteTable.covers start path = false :=
      Bool.and_eq_false_iff.mpr (Or.inl hbegins)
    rw [hcovers]
    rfl
  | true =>
    obtain ⟨rest, rfl⟩ := Path.begins_iff.mp hbegins
    have hlength : (start ++ rest).utf8ByteSize = start.utf8ByteSize ↔ rest = "" := by
      rw [String.utf8ByteSize_append, Nat.add_eq_left, String.utf8ByteSize_eq_zero_iff]
    rw [covers_append, sliceFrom?_append, Bool.not_true, if_neg Bool.false_ne_true,
      Option.map_some]
    simp only [hlength]
    by_cases hend : start.toList.getLast? = some '/' ∨ rest = ""
    · rw [if_pos hend]
      obtain hslash | rfl := hend
      · rw [hslash, beq_self_eq_true, Bool.true_or]
      · rw [beq_self_eq_true, Bool.true_or, Bool.or_true]
    · rw [if_neg hend]
      obtain ⟨hslash, hrest⟩ := not_or.mp hend
      rw [beq_eq_false_iff_ne.mpr hslash, beq_eq_false_iff_ne.mpr hrest, Bool.false_or,
        Bool.false_or]

/-! ### The entry that decides -/

/-- The entry of a list that **decides** about a route: it covers the route, no entry that does has
a longer prefix, and none of those declared before has one as long. -/
structure Decides (declared : List Route) (route : String) (r : Route) : Prop where
  covers : Covers r.1 route
  longest : ∀ s ∈ declared, Covers s.1 route → s.1.utf8ByteSize ≤ r.1.utf8ByteSize
  first : ∃ before after, declared = before ++ r :: after ∧
    ∀ s ∈ before, Covers s.1 route → s.1.utf8ByteSize < r.1.utf8ByteSize

namespace Decides

variable {declared other : List Route} {route : String} {r s : Route}

theorem mem (h : Decides declared route r) : r ∈ declared := by
  obtain ⟨before, after, hdeclared, -⟩ := h.first
  rw [hdeclared]
  exact List.mem_append_right _ List.mem_cons_self

/-- In lists of the same entries those that decide about a route are of one length. -/
theorem length_eq (hr : Decides declared route r) (hs : Decides other route s)
    (hsame : ∀ x, x ∈ declared ↔ x ∈ other) : r.1.utf8ByteSize = s.1.utf8ByteSize :=
  Nat.le_antisymm (hs.longest r ((hsame r).mp hr.mem) hr.covers)
    (hr.longest s ((hsame s).mpr hs.mem) hs.covers)

/-- One entry at most decides about a route. -/
theorem unique (hr : Decides declared route r) (hs : Decides declared route s) : r = s := by
  have hlength := hr.length_eq hs fun _ => Iff.rfl
  obtain ⟨before, after, hdeclared, hbefore⟩ := hr.first
  obtain ⟨before', after', hdeclared', hbefore'⟩ := hs.first
  obtain ⟨between, rfl, hcons⟩ | ⟨between, rfl, hcons⟩ :=
    List.append_eq_append_iff.mp (hdeclared.symm.trans hdeclared')
  · cases between with
    | nil => exact (List.cons.inj hcons).1
    | cons x between =>
      -- then the first entry would be one of those declared before the second
      obtain rfl : r = x := (List.cons.inj hcons).1
      have hlt := hbefore' r (List.mem_append_right _ List.mem_cons_self) hr.covers
      omega
  · cases between with
    | nil => exact (List.cons.inj hcons).1.symm
    | cons x between =>
      obtain rfl : s = x := (List.cons.inj hcons).1
      have hlt := hbefore s (List.mem_append_right _ List.mem_cons_self) hs.covers
      omega

end Decides

/-! ### The table that is made of a list -/

theorem pairwise_mergeSort (declared : List Route) :
    (declared.mergeSort precedes).Pairwise fun a b => precedes a b = true :=
  @List.pairwise_mergeSort Route precedes (fun _ _ _ => precedes_trans) precedes_total declared

theorem precedes_of_eq {a b : Route} (h : a.1 = b.1) : precedes a b = true := by
  rw [precedes_iff, h]
  exact Or.inr ⟨rfl, String.le_refl _⟩

/-- Entries of one prefix keep their order when a table is sorted. -/
theorem filter_mergeSort (declared : List Route) (start : String) :
    (declared.mergeSort precedes).filter (fun r => r.1 == start) =
      declared.filter fun r => r.1 == start := by
  have hpairwise : (declared.filter fun r => r.1 == start).Pairwise
      fun a b => precedes a b = true := by
    refine List.pairwise_of_forall_mem_list fun a ha b hb => precedes_of_eq ?_
    exact (beq_iff_eq.mp (List.mem_filter.mp ha).2).trans
      (beq_iff_eq.mp (List.mem_filter.mp hb).2).symm
  have hsublist : (declared.filter fun r => r.1 == start).Sublist (declared.mergeSort precedes) :=
    @List.sublist_mergeSort Route precedes declared (fun _ _ _ => precedes_trans) precedes_total _
      hpairwise List.filter_sublist
  have hfiltered := hsublist.filter fun r => r.1 == start
  rw [List.filter_filter] at hfiltered
  simp only [Bool.and_self] at hfiltered
  exact (hfiltered.eq_of_length
    ((List.mergeSort_perm declared precedes).filter _).length_eq.symm).symm

/-- What is looked for by its prefix is found before repetitions are dropped exactly if it is found
afterwards. -/
theorem find?_dropRepeats (looked : String → Bool) (rs : List Route) :
    (dropRepeats rs).find? (fun r => looked r.1) = rs.find? fun r => looked r.1 := by
  fun_induction dropRepeats rs with
  | case1 => rfl
  | case2 r => rfl
  | case3 r s rest heq ih =>
    rw [ih]
    cases hlooked : looked r.1 <;> simp [hlooked, ← heq]
  | case4 r s rest hne ih =>
    cases hlooked : looked r.1 <;> simp [hlooked, ih]

end Route

namespace RouteTable

open Route

variable {declared : List Route} {route : String}

theorem find?_ofList (declared : List Route) (route : String) :
    (ofList declared).routes.find? (fun r => covers r.1 route) =
      (declared.mergeSort precedes).find? fun r => covers r.1 route :=
  find?_dropRepeats (fun start => covers start route) _

theorem find?_eq_none_iff :
    (ofList declared).routes.find? (fun r => covers r.1 route) = none ↔
      ∀ r ∈ declared, ¬ Covers r.1 route := by
  simp only [find?_ofList, List.find?_eq_none, List.mem_mergeSort, covers_iff]

/-- What is found first in a sorted list precedes all that could have been found. -/
theorem precedes_of_find? {looked : Route → Bool} {sorted : List Route} {r s : Route}
    (hsorted : sorted.Pairwise fun a b => precedes a b = true)
    (hfind : sorted.find? looked = some r) (hmem : s ∈ sorted) (hlooked : looked s = true) :
    precedes r s = true := by
  obtain ⟨-, before, after, rfl, hbefore⟩ := List.find?_eq_some_iff_append.mp hfind
  obtain hmem | hmem := List.mem_append.mp hmem
  · have hnot := hbefore s hmem
    rw [hlooked] at hnot
    cases hnot
  · obtain rfl | hmem := List.mem_cons.mp hmem
    · exact precedes_of_eq rfl
    · exact List.rel_of_pairwise_cons (List.pairwise_append.mp hsorted).2.1 hmem

/-- What is found by looking at prefixes is the first entry with its prefix. -/
theorem find?_prefix_of_find? (looked : String → Bool) {rs : List Route} {r : Route}
    (hfind : rs.find? (fun s => looked s.1) = some r) :
    rs.find? (fun s => s.1 == r.1) = some r := by
  obtain ⟨hr, before, after, rfl, hbefore⟩ := List.find?_eq_some_iff_append.mp hfind
  refine List.find?_eq_some_iff_append.mpr ⟨beq_self_eq_true _, before, after, rfl, ?_⟩
  intro s hs
  have hnot := hbefore s hs
  by_cases heq : s.1 = r.1
  · rw [heq, hr] at hnot
    cases hnot
  · rw [beq_eq_false_iff_ne.mpr heq, Bool.not_false]

/-- The first entry of a sorted table that covers a route decides about it. -/
theorem decides_of_find? {r : Route}
    (h : (ofList declared).routes.find? (fun r => covers r.1 route) = some r) :
    Decides declared route r := by
  rw [find?_ofList] at h
  have hcovers : Covers r.1 route :=
    covers_iff.mp (List.find?_some (p := fun r : Route => covers r.1 route) h)
  have hlongest : ∀ s ∈ declared, Covers s.1 route → s.1.utf8ByteSize ≤ r.1.utf8ByteSize := by
    intro s hs hs'
    have hprecedes := precedes_of_find? (pairwise_mergeSort declared) h (List.mem_mergeSort.mpr hs)
      (covers_iff.mpr hs')
    obtain hlt | ⟨heq, -⟩ := precedes_iff.mp hprecedes
    · exact Nat.le_of_lt hlt
    · exact Nat.le_of_eq heq.symm
  have hfirst : declared.find? (fun s => s.1 == r.1) = some r := by
    have hsorted := find?_prefix_of_find? (fun start => covers start route) h
    rwa [← List.head?_filter, filter_mergeSort, List.head?_filter] at hsorted
  obtain ⟨-, before, after, rfl, hbefore⟩ := List.find?_eq_some_iff_append.mp hfirst
  refine ⟨hcovers, hlongest, before, after, rfl, fun s hs hs' => ?_⟩
  refine Nat.lt_of_le_of_ne (hlongest s (List.mem_append_left _ hs) hs') fun hlength => ?_
  -- one that is as long would have the same prefix
  have hnot := hbefore s hs
  rw [eq_of_length_eq hs' hcovers hlength, beq_self_eq_true] at hnot
  cases hnot

/-- **Looking up** a route finds the entry that decides about it. -/
theorem find?_eq_some_iff {r : Route} :
    (ofList declared).routes.find? (fun r => covers r.1 route) = some r ↔
      Decides declared route r := by
  refine ⟨decides_of_find?, fun h => ?_⟩
  cases hfind : (ofList declared).routes.find? fun r => covers r.1 route with
  | none => exact absurd h.covers (find?_eq_none_iff.mp hfind r h.mem)
  | some s => rw [(decides_of_find? hfind).unique h]

theorem classify_of_decides {path : String} {r : Route}
    (h : Decides declared (Path.cut path) r) : (ofList declared).classify path = r.2 := by
  simp only [classify, find?_eq_some_iff.mpr h]

theorem classify_of_not_covers {path : String}
    (h : ∀ r ∈ declared, ¬ Covers r.1 (Path.cut path)) :
    (ofList declared).classify path = .primary := by
  simp only [classify, find?_eq_none_iff.mpr h]

/-- There is an entry that decides about a route as soon as there is one that covers it. -/
theorem exists_decides (declared : List Route) (route : String) :
    (∃ r, Decides declared route r) ∨ ∀ r ∈ declared, ¬ Covers r.1 route := by
  cases hfind : (ofList declared).routes.find? fun r => covers r.1 route with
  | none => exact Or.inr (find?_eq_none_iff.mp hfind)
  | some r => exact Or.inl ⟨r, decides_of_find? hfind⟩

theorem classify_eq_iff {path : String} {scope : Scope} :
    (ofList declared).classify path = scope ↔
      (∃ r, Decides declared (Path.cut path) r ∧ r.2 = scope) ∨
        (∀ r ∈ declared, ¬ Covers r.1 (Path.cut path)) ∧ scope = .primary := by
  constructor
  · rintro rfl
    obtain ⟨r, hr⟩ | hnone := exists_decides declared (Path.cut path)
    · exact Or.inl ⟨r, hr, (classify_of_decides hr).symm⟩
    · exact Or.inr ⟨hnone, classify_of_not_covers hnone⟩
  · rintro (⟨r, hr, rfl⟩ | ⟨hnone, rfl⟩)
    · exact classify_of_decides hr
    · exact classify_of_not_covers hnone

/-- The order of declaration does not matter where every prefix has one scope. -/
theorem classify_perm {other : List Route} (hperm : declared.Perm other)
    (hscopes : ∀ a ∈ declared, ∀ b ∈ declared, a.1 = b.1 → a.2 = b.2) (path : String) :
    (ofList other).classify path = (ofList declared).classify path := by
  obtain ⟨r, hr⟩ | hnone := exists_decides declared (Path.cut path)
  · obtain ⟨s, hs⟩ | hnone := exists_decides other (Path.cut path)
    · have hmem : s ∈ declared := hperm.mem_iff.mpr hs.mem
      have hlength := hs.length_eq hr fun _ => hperm.mem_iff.symm
      rw [classify_of_decides hs, classify_of_decides hr]
      exact hscopes s hmem r hr.mem (eq_of_length_eq hs.covers hr.covers hlength)
    · exact absurd hr.covers (hnone r (hperm.mem_iff.mp hr.mem))
  · rw [classify_of_not_covers hnone]
    exact classify_of_not_covers fun r hr => hnone r (hperm.mem_iff.mpr hr)

/-- **The longest prefix decides.** Whatever entries are declared, the scope of a path depends on
its part before the first `?` or `#` only: it is that of the entry that decides about this route,
and the session's own if no entry covers it. No offset in bytes that is met on the way lies inside a
character. Where no prefix was declared with two scopes the order of the entries does not matter. -/
theorem classify_longest (declared : List Route) (path : String) :
    let route := Path.cut path
    (∃ tail, Path.Parts path route tail) ∧
    (∀ scope, (ofList declared).classify path = scope ↔
      (∃ r, Decides declared route r ∧ r.2 = scope) ∨
        (∀ r ∈ declared, ¬ Covers r.1 route) ∧ scope = .primary) ∧
    (∀ start, coversAt? start route = some (covers start route)) ∧
    ∀ other : List Route, declared.Perm other →
      (∀ a ∈ declared, ∀ b ∈ declared, a.1 = b.1 → a.2 = b.2) →
      (ofList other).classify path = (ofList declared).classify path := by
  intro route
  refine ⟨Path.parts_cut path, fun scope => classify_eq_iff, fun start => coversAt?_eq start route,
    fun other hperm hscopes => ?_⟩
  exact classify_perm hperm hscopes path

/-- Entries that go on where others end, with a prefix declared twice and with a character of two
bytes. -/
def nested : List Route :=
  [("", .primary), ("/é", .unscoped), ("/é/", .tunnelGeneric), ("/é/", .tunnelGeneric)]

/-- However these entries are ordered, the longest prefix decides. -/
theorem classify_longest_nested :
    nested.Perm nested.reverse ∧
      (∀ a ∈ nested, ∀ b ∈ nested, a.1 = b.1 → a.2 = b.2) ∧
      (ofList nested).classify "/é/x?y=/z" = .tunnelGeneric ∧
      (ofList nested.reverse).classify "/é/x?y=/z" = .tunnelGeneric := by
  have hperm : nested.Perm nested.reverse := (List.reverse_perm nested).symm
  have hscopes : ∀ a ∈ nested, ∀ b ∈ nested, a.1 = b.1 → a.2 = b.2 := by decide
  have hroute : Path.cut "/é/x?y=/z" = "/é/x" := by decide
  obtain ⟨-, hscope, -, horder⟩ := classify_longest nested "/é/x?y=/z"
  have hlongest : ∀ s ∈ nested, covers s.1 "/é/x" = true →
      s.1.utf8ByteSize ≤ "/é/".utf8ByteSize := by decide
  have hfirst : ∀ s ∈ nested.take 2, covers s.1 "/é/x" = true →
      s.1.utf8ByteSize < "/é/".utf8ByteSize := by decide
  have hclassify : (ofList nested).classify "/é/x?y=/z" = .tunnelGeneric := by
    refine (hscope .tunnelGeneric).mpr (Or.inl ⟨("/é/", .tunnelGeneric), ?_, rfl⟩)
    rw [hroute]
    exact ⟨covers_iff.mp (by decide), fun s hs h => hlongest s hs (covers_iff.mpr h),
      nested.take 2, nested.drop 3, rfl, fun s hs h => hfirst s hs (covers_iff.mpr h)⟩
  exact ⟨hperm, hscopes, hclassify, (horder nested.reverse hperm hscopes).trans hclassify⟩

end RouteTable

end AdminConsole
