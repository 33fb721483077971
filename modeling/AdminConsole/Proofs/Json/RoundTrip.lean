import AdminConsole.Json.Record
import AdminConsole.Proofs.Json.Reading

/-!
# Values that are written and read back

A value without doubles is written as the text of exactly one tree, `Json.tree?`: its numbers are
the numerals of the whole numbers, its strings and keys are what they were, and the members of its
objects stand in the same order. What is printed is a JSON text of this tree, whether it is laid out
over lines or not (`valueText_prettyChars`, `valueText_compactChars`), and every JSON text is read.
So reading undoes printing (`Tree.parse?_pretty`, `Tree.parse?_compact`), and whatever reads a value
from its tree reads it from both texts (`decode?_of_tree?`).
-/

namespace AdminConsole.Json

open AdminConsole.Text

/-! ### Trees from texts -/

mutual

/-- The tree that the text of a value spells. A value that holds a double has none. -/
def tree? : Json → Option Tree
  | .null => some .null
  | .bool b => some (.bool b)
  | .number (.int i) => some (.number (.ofInt i))
  | .number (.float _) => none
  | .string s => some (.string (some s))
  | .array es => (elementTrees? es).map .array
  | .object ms => (memberTrees? ms).map .object

/-- The trees of the elements of an array. -/
def elementTrees? : List Json → Option (List Tree)
  | [] => some []
  | v :: vs => do
    let t ← tree? v
    let ts ← elementTrees? vs
    return t :: ts

/-- The trees of the members of an object, with their keys. -/
def memberTrees? : List (String × Json) → Option (List (Option String × Tree))
  | [] => some []
  | (k, v) :: ms => do
    let t ← tree? v
    let ts ← memberTrees? ms
    return (some k, t) :: ts

end

theorem exists_of_elementTrees? {v : Json} {vs : List Json} {ts : List Tree}
    (h : elementTrees? (v :: vs) = some ts) :
    ∃ t us, v.tree? = some t ∧ elementTrees? vs = some us ∧ ts = t :: us := by
  simp only [elementTrees?, bind, Option.bind_eq_some_iff] at h
  obtain ⟨t, ht, us, hus, hts⟩ := h
  exact ⟨t, us, ht, hus, (Option.some.inj hts).symm⟩

theorem exists_of_memberTrees? {k : String} {v : Json} {ms : List (String × Json)}
    {ts : List (Option String × Tree)} (h : memberTrees? ((k, v) :: ms) = some ts) :
    ∃ t us, v.tree? = some t ∧ memberTrees? ms = some us ∧ ts = (some k, t) :: us := by
  simp only [memberTrees?, bind, Option.bind_eq_some_iff] at h
  obtain ⟨t, ht, us, hus, hts⟩ := h
  exact ⟨t, us, ht, hus, (Option.some.inj hts).symm⟩

/-! ### Texts over lines -/

section Spaces

variable {blank : List Char} (hblank : ∀ c ∈ blank, IsSpace c)
include hblank

theorem ValueText.spacesBefore {t : Tree} {cs : List Char} (h : ValueText t cs) :
    ValueText t (blank ++ cs) := by
  induction blank with
  | nil => exact h
  | cons c blank ih =>
    have hc : IsSpace c := hblank c List.mem_cons_self
    exact .spaceBefore hc (ih fun d hd => hblank d (List.mem_cons_of_mem c hd))

theorem ValueText.spacesAfter {t : Tree} {cs : List Char} (h : ValueText t cs) :
    ValueText t (cs ++ blank) := by
  induction blank generalizing cs with
  | nil => rwa [List.append_nil]
  | cons c blank ih =>
    have hc : IsSpace c := hblank c List.mem_cons_self
    have hafter := ih (fun d hd => hblank d (List.mem_cons_of_mem c hd)) (.spaceAfter hc h)
    rwa [List.append_assoc, List.singleton_append] at hafter

/-- White space behind the elements of an array belongs to the last of them. -/
theorem ElementsText.spacesAfter {ts : List Tree} {cs : List Char} (h : ElementsText ts cs) :
    ElementsText ts (cs ++ blank) := by
  induction ts generalizing cs with
  | nil => cases h
  | cons t ts ih =>
    cases h with
    | one h => exact .one (h.spacesAfter hblank)
    | cons h hs =>
      rw [List.append_assoc, List.cons_append]
      exact .cons h (ih hs)

theorem MembersText.spacesAfter {ms : List (Option String × Tree)} {cs : List Char}
    (h : MembersText ms cs) : MembersText ms (cs ++ blank) := by
  induction ms generalizing cs with
  | nil => cases h
  | cons m ms ih =>
    cases h with
    | one hk h =>
      rw [List.append_assoc, List.cons_append]
      exact .one hk (h.spacesAfter hblank)
    | cons hk h hs =>
      rw [List.append_assoc, List.cons_append, List.append_assoc, List.cons_append]
      exact .cons hk h (ih hs)

end Spaces

theorem isSpace_of_mem_newLine (level : Nat) : ∀ c ∈ newLine level, IsSpace c := by
  intro c hc
  obtain rfl | hspace := List.mem_cons.mp hc
  · exact .inr (.inr (.inl rfl))
  · exact .inl (List.eq_of_mem_replicate hspace)

mutual

/-- What is laid out for a value is a text of its tree. -/
theorem valueText_prettyChars (level : Nat) :
    ∀ {v : Json} {t : Tree}, v.tree? = some t → ValueText t (prettyChars level v)
  | .null, _, h => by
    obtain rfl := Option.some.inj h
    exact .null
  | .bool true, _, h => by
    obtain rfl := Option.some.inj h
    exact .true
  | .bool false, _, h => by
    obtain rfl := Option.some.inj h
    exact .false
  | .number (.int i), _, h => by
    obtain rfl := Option.some.inj h
    exact .number (numeralText_intText i)
  | .string s, _, h => by
    obtain rfl := Option.some.inj h
    exact .string (stringText_quote s)
  | .array [], _, h => by
    obtain rfl := Option.some.inj h
    exact .emptyArray (List.forall_mem_nil _)
  | .array (v :: vs), _, h => by
    obtain ⟨ts, hts, rfl⟩ := Option.map_eq_some_iff.mp h
    have hbody := elementsText_prettyElements (level + 1) (List.cons_ne_nil v vs) hts
    exact .array (hbody.spacesAfter (isSpace_of_mem_newLine level))
  | .object [], _, h => by
    obtain rfl := Option.some.inj h
    exact .emptyObject (List.forall_mem_nil _)
  | .object (m :: ms), _, h => by
    obtain ⟨ts, hts, rfl⟩ := Option.map_eq_some_iff.mp h
    have hbody := membersText_prettyMembers (level + 1) (List.cons_ne_nil m ms) hts
    exact .object (hbody.spacesAfter (isSpace_of_mem_newLine level))

/-- What is laid out for the elements of an array is a text of their trees. -/
theorem elementsText_prettyElements (level : Nat) :
    ∀ {vs : List Json} {ts : List Tree}, vs ≠ [] → elementTrees? vs = some ts →
      ElementsText ts (prettyElements level vs)
  | [v], _, _, h => by
    obtain ⟨t, _, ht, hnil, rfl⟩ := exists_of_elementTrees? h
    obtain rfl := Option.some.inj hnil
    exact .one ((valueText_prettyChars level ht).spacesBefore (isSpace_of_mem_newLine level))
  | v :: w :: ws, _, _, h => by
    obtain ⟨t, us, ht, htail, rfl⟩ := exists_of_elementTrees? h
    have hvalue := (valueText_prettyChars level ht).spacesBefore (isSpace_of_mem_newLine level)
    have hrest := elementsText_prettyElements level (List.cons_ne_nil w ws) htail
    exact .cons hvalue hrest

/-- What is laid out for the members of an object is a text of their keys and trees. -/
theorem membersText_prettyMembers (level : Nat) :
    ∀ {ms : List (String × Json)} {ts : List (Option String × Tree)}, ms ≠ [] →
      memberTrees? ms = some ts → MembersText ts (prettyMembers level ms)
  | [(k, v)], _, _, h => by
    obtain ⟨t, _, ht, hnil, rfl⟩ := exists_of_memberTrees? h
    obtain rfl := Option.some.inj hnil
    have hkey := (ValueText.string (stringText_quote k)).spacesBefore (isSpace_of_mem_newLine level)
    exact .one hkey (.spaceBefore (.inl rfl) (valueText_prettyChars level ht))
  | (k, v) :: m :: ms, _, _, h => by
    obtain ⟨t, us, ht, htail, rfl⟩ := exists_of_memberTrees? h
    have hkey := (ValueText.string (stringText_quote k)).spacesBefore (isSpace_of_mem_newLine level)
    have hvalue := ValueText.spaceBefore (.inl rfl) (valueText_prettyChars level ht)
    have hrest := membersText_prettyMembers level (List.cons_ne_nil m ms) htail
    exact .cons hkey hvalue hrest

end

/-! ### Texts without white space -/

mutual

/-- What is printed for a value without white space is a text of its tree. -/
theorem valueText_compactChars :
    ∀ {v : Json} {t : Tree}, v.tree? = some t → ValueText t (compactChars v)
  | .null, _, h => by
    obtain rfl := Option.some.inj h
    exact .null
  | .bool true, _, h => by
    obtain rfl := Option.some.inj h
    exact .true
  | .bool false, _, h => by
    obtain rfl := Option.some.inj h
    exact .false
  | .number (.int i), _, h => by
    obtain rfl := Option.some.inj h
    exact .number (numeralText_intText i)
  | .string s, _, h => by
    obtain rfl := Option.some.inj h
    exact .string (stringText_quote s)
  | .array [], _, h => by
    obtain rfl := Option.some.inj h
    exact .emptyArray (List.forall_mem_nil _)
  | .array (v :: vs), _, h => by
    obtain ⟨ts, hts, rfl⟩ := Option.map_eq_some_iff.mp h
    exact .array (elementsText_compactElements (List.cons_ne_nil v vs) hts)
  | .object [], _, h => by
    obtain rfl := Option.some.inj h
    exact .emptyObject (List.forall_mem_nil _)
  | .object (m :: ms), _, h => by
    obtain ⟨ts, hts, rfl⟩ := Option.map_eq_some_iff.mp h
    exact .object (membersText_compactMembers (List.cons_ne_nil m ms) hts)

/-- What is printed for the elements of an array is a text of their trees. -/
theorem elementsText_compactElements :
    ∀ {vs : List Json} {ts : List Tree}, vs ≠ [] → elementTrees? vs = some ts →
      ElementsText ts (compactElements vs)
  | [v], _, _, h => by
    obtain ⟨t, _, ht, hnil, rfl⟩ := exists_of_elementTrees? h
    obtain rfl := Option.some.inj hnil
    exact .one (valueText_compactChars ht)
  | v :: w :: ws, _, _, h => by
    obtain ⟨t, us, ht, htail, rfl⟩ := exists_of_elementTrees? h
    have hrest := elementsText_compactElements (List.cons_ne_nil w ws) htail
    exact .cons (valueText_compactChars ht) hrest

/-- What is printed for the members of an object is a text of their keys and trees. -/
theorem membersText_compactMembers :
    ∀ {ms : List (String × Json)} {ts : List (Option String × Tree)}, ms ≠ [] →
      memberTrees? ms = some ts → MembersText ts (compactMembers ms)
  | [(k, v)], _, _, h => by
    obtain ⟨t, _, ht, hnil, rfl⟩ := exists_of_memberTrees? h
    obtain rfl := Option.some.inj hnil
    exact .one (.string (stringText_quote k)) (valueText_compactChars ht)
  | (k, v) :: m :: ms, _, _, h => by
    obtain ⟨t, us, ht, htail, rfl⟩ := exists_of_memberTrees? h
    have hrest := membersText_compactMembers (List.cons_ne_nil m ms) htail
    exact .cons (.string (stringText_quote k)) (valueText_compactChars ht) hrest

end

/-! ### Reading undoes printing -/

section Texts

variable {v : Json} {t : Tree}

/-- **Reading undoes writing**: the laid out text of a value without doubles is read as the tree of
the value. -/
theorem Tree.parse?_pretty (h : v.tree? = some t) : Tree.parse? v.pretty = some t := by
  have htext : ValueText t v.pretty.toList := by
    rw [pretty, String.toList_ofList]
    exact valueText_prettyChars 0 h
  exact htext.parse?_eq

/-- The text without white space is read as the same tree. -/
theorem Tree.parse?_compact (h : v.tree? = some t) : Tree.parse? v.compact = some t := by
  have htext : ValueText t v.compact.toList := by
    rw [compact, String.toList_ofList]
    exact valueText_compactChars h
  exact htext.parse?_eq

/-- What is read from the tree of a value is read from both of its texts. -/
theorem decode?_of_tree? {α : Type} {read : Tree → Option α} {a : α} (h : v.tree? = some t)
    (hread : read t = some a) :
    decode? read v.pretty = some a ∧ decode? read v.compact = some a := by
  rw [decode?, decode?, Tree.parse?_pretty h, Tree.parse?_compact h]
  exact ⟨hread, hread⟩

end Texts

end AdminConsole.Json
