import AdminConsole.Proofs.Json.Fields

/-!
# Fields in any order

Of an object it matters to the reader of a record that its keys are texts and that each of the
record's names is at most one of them (`Legible`). Then, in whatever order the members stand and
whatever unknown ones are among them, the parts of the record are exactly the members with its names
(`Tree.exists_fields?_object`), and a field that has a default is read as its member gives it or, if
it has none, as the default (`Given.orElse_eq`).
-/

namespace AdminConsole.Json

/-- The keys of the members of an object. -/
def keys (ms : List (Option String × Tree)) : List (Option String) := ms.map Prod.fst

/-- All keys are texts, and each of the names is the key of one member at most. -/
structure Legible (names : List String) (ms : List (Option String × Tree)) : Prop where
  texts : none ∉ keys ms
  once : ∀ name ∈ names, (keys ms).count (some name) ≤ 1

/-- The members of an object give a field this value: there is a member with its name, the tree of
which is one for the value, or there is none and the value is the default. -/
inductive Given {α : Type} (ms : List (Option String × Tree)) (name : String)
    (IsFor : Tree → α → Prop) (default : α) : α → Prop
  | member {t : Tree} {v : α} (h : (some name, t) ∈ ms) (hv : IsFor t v) :
      Given ms name IsFor default v
  | absent (h : some name ∉ keys ms) : Given ms name IsFor default default

section Reading

variable {names : List String} {ms : List (Option String × Tree)}

theorem mem_keys {k : Option String} {t : Tree} (h : (k, t) ∈ ms) : k ∈ keys ms :=
  List.mem_map_of_mem h

theorem Legible.tail {m : Option String × Tree} (h : Legible names (m :: ms)) :
    Legible names ms where
  texts := fun hmem => h.texts (List.mem_cons_of_mem m.1 hmem)
  once := fun name hname => by
    have hle : (keys ms).count (some name) ≤ (keys (m :: ms)).count (some name) :=
      List.count_le_count_cons
    exact hle.trans (h.once name hname)

/-- A name that is the key of one member is the key of no other. -/
theorem Legible.not_mem_keys {name : String} {t : Tree} (h : Legible names ((some name, t) :: ms))
    (hname : name ∈ names) : some name ∉ keys ms := by
  have honce : (keys ms).count (some name) + 1 ≤ 1 := by
    have hcount := h.once name hname
    rwa [keys, List.map_cons, List.count_cons_self] at hcount
  exact List.count_eq_zero.mp (by omega)

/-- Each name may be the key of one member, in the order of the names. -/
theorem Legible.of_keys (h : keys ms = names.map some) (hnames : names.Nodup) :
    Legible names ms where
  texts := by simp [h]
  once := fun name _ => by
    have hkeys : (keys ms).Nodup := by
      rw [h]
      exact List.pairwise_map.mpr (hnames.imp fun hne heq => hne (Option.some.inj heq))
    exact List.nodup_iff_count.mp hkeys (some name)

/-- The parts of a record in a legible object are the members with its names. -/
theorem Tree.exists_knownMembers? (h : Legible names ms) :
    ∃ parts, knownMembers? names ms = some parts ∧
      ∀ name ∈ names, ∀ t, parts.lookup name = some t ↔ (some name, t) ∈ ms := by
  induction ms with
  | nil => exact ⟨[], rfl, by simp⟩
  | cons m ms ih =>
    obtain ⟨parts, hparts, hlookup⟩ := ih h.tail
    obtain ⟨_ | k, t⟩ := m
    · exact absurd List.mem_cons_self h.texts
    · by_cases hk : k ∈ names
      · have hnew : some k ∉ keys ms := h.not_mem_keys hk
        have hnone : parts.lookup k = none := by
          rw [Option.eq_none_iff_forall_not_mem]
          exact fun u hu => hnew (mem_keys ((hlookup k hk u).mp hu))
        refine ⟨(k, t) :: parts, by simp [knownMembers?, hparts, hk, hnone], ?_⟩
        intro name hname u
        by_cases heq : name = k
        · subst heq
          have hold : (some name, u) ∉ ms := fun hu => hnew (mem_keys hu)
          simp [hold, eq_comm]
        · have hbeq : (name == k) = false := beq_false_of_ne heq
          simp [List.lookup_cons, hbeq, heq, hlookup name hname u]
      · refine ⟨parts, by simp [knownMembers?, hparts, hk], ?_⟩
        intro name hname u
        have heq : name ≠ k := fun heq => hk (heq ▸ hname)
        simp [heq, hlookup name hname u]

theorem Tree.exists_fields?_object (h : Legible names ms) :
    ∃ parts, fields? names (.object ms) = some ⟨.object, parts⟩ ∧
      ∀ name ∈ names, ∀ t, parts.lookup name = some t ↔ (some name, t) ∈ ms := by
  obtain ⟨parts, hparts, hlookup⟩ := exists_knownMembers? h
  exact ⟨parts, by rw [fields?, hparts, Option.map_some], hlookup⟩

/-- No record is read from an object with a key that is no text. -/
theorem Tree.fields?_eq_none (h : none ∈ keys ms) : fields? names (.object ms) = none := by
  have hnone : knownMembers? names ms = none := by
    induction ms with
    | nil => cases h
    | cons m ms ih =>
      obtain ⟨_ | k, t⟩ := m
      · rfl
      · have htail : none ∈ keys ms := by
          simpa [keys] using h
        rw [knownMembers?, ih htail, Option.bind_none]
  rw [fields?, hnone, Option.map_none]

/-- What a field that has a default is read as. -/
theorem Given.orElse_eq {α : Type} {name : String} {IsFor : Tree → α → Prop} {default v : α}
    (h : Given ms name IsFor default v) {parts : List (String × Tree)}
    (hparts : ∀ t, parts.lookup name = some t ↔ (some name, t) ∈ ms) {read : Tree → Option α}
    (hread : ∀ t, IsFor t v → read t = some v) :
    Fields.orElse ⟨.object, parts⟩ name read default = some v := by
  cases h with
  | @member t _ h hv => rw [Fields.orElse_eq ((hparts t).mpr h), hread t hv]
  | absent h =>
    have hnone : parts.lookup name = none := by
      rw [Option.eq_none_iff_forall_not_mem]
      exact fun t ht => h (mem_keys ((hparts t).mp ht))
    simp only [Fields.orElse, hnone]

/-- The same for a field whose value has one tree only. -/
theorem Given.orElse_of_eq {α : Type} {name : String} {write : α → Tree} {default v : α}
    (h : Given ms name (fun t v => t = write v) default v) {parts : List (String × Tree)}
    (hparts : ∀ t, parts.lookup name = some t ↔ (some name, t) ∈ ms) {read : Tree → Option α}
    (hread : read (write v) = some v) :
    Fields.orElse ⟨.object, parts⟩ name read default = some v :=
  h.orElse_eq hparts fun _ ht => ht ▸ hread

end Reading

/-- An object may leave out a field that may be null: this is its default there. -/
theorem Fields.optional_object {α : Type} (parts : List (String × Tree)) (name : String)
    (read : Tree → Option α) :
    Fields.optional ⟨.object, parts⟩ name read =
      Fields.orElse ⟨.object, parts⟩ name (Tree.asOption? read) none := by
  cases h : parts.lookup name with
  | none => simp only [optional, orElse, h]
  | some t => simp only [optional, orElse, h]

end AdminConsole.Json
