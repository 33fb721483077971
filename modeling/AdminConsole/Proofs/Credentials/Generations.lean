import AdminConsole.Proofs.Credentials.Failures

/-!
# What a generation tells

The generation of a store counts the access tokens that were installed, so whoever remembers it can
tell later whether the session is still the same one. Two facts make this work.

* **One operation.** The generation grows by one at an operation after which there is an access
  token that was not there before, and is kept by every other one (`Store.generation_perform`).
  A token that is written again while it is still there is not counted; one that was cleared in
  between is.
* **Two moments.** From one moment to a later one with the same generation the access token may only
  get lost (`Store.Outlasts`). This holds for one operation and is passed on from moment to moment,
  so it holds for whole runs (`Store.outlasts_performAll`).
-/

namespace AdminConsole

open AdminConsole.Time

namespace Store

variable {β : Type}

/-- From the first state to the second an access token was installed: there is one, and it is not
the one that was there before. -/
def GainsToken (s t : Store β) : Prop :=
  t.get .access ≠ none ∧ t.get .access ≠ s.get .access

theorem installs_iff {s t : Store β} : installs s.stored t.stored = true ↔ s.GainsToken t := by
  simp only [installs, GainsToken, get, StoredCredentials.get, Bool.and_eq_true, bne_iff_ne,
    Option.isSome_iff_ne_none]

/-! ### One operation -/

section Operation

variable [Backend β] {s : Store β} {op : StoreOperation}

/-- What an admitted operation leaves is counted if it is a new access token. -/
theorem generation_perform_of_admits (h : s.admits op = true) :
    (s.perform op).2.generation =
      if installs s.stored (s.perform op).2.stored then s.generation + 1 else s.generation := by
  cases op with
  | ask question => cases h
  | write now w =>
    obtain ⟨credentials, hwrite⟩ := exists_apply_eq_write h now
    have hperform : (s.perform (.write now w)).2 = s.write now credentials := hwrite
    rw [hperform]
    rfl

/-- An operation that is not admitted keeps the generation and the access token. -/
theorem generation_perform_of_not_admits (h : s.admits op = false) :
    (s.perform op).2.generation = s.generation ∧
      (s.perform op).2.get .access = s.get .access := by
  obtain ⟨peer, hpeer⟩ := exists_perform_eq_peer h
  rw [hpeer]
  exact ⟨rfl, rfl⟩

/-- **One operation.** The generation grows by one where an access token is installed, and stays as
it is otherwise. -/
theorem generation_perform (s : Store β) (op : StoreOperation) :
    (s.GainsToken (s.perform op).2 → (s.perform op).2.generation = s.generation + 1) ∧
      (¬ s.GainsToken (s.perform op).2 → (s.perform op).2.generation = s.generation) := by
  cases hadmits : s.admits op with
  | true =>
    have hgeneration := generation_perform_of_admits hadmits
    refine ⟨fun hgains => ?_, fun hkeeps => ?_⟩
    · rw [hgeneration, if_pos (installs_iff.mpr hgains)]
    · rw [hgeneration, if_neg fun hinstalls => hkeeps (installs_iff.mp hinstalls)]
  | false =>
    obtain ⟨hgeneration, haccess⟩ := generation_perform_of_not_admits hadmits
    exact ⟨fun hgains => absurd haccess hgains.2, fun _ => hgeneration⟩

end Operation

/-! ### Two moments -/

/-- What a store at one moment tells of a later one: the generation has not gone back, and if it is
still the same, the access token is still the same or gone. -/
structure Outlasts (s t : Store β) : Prop where
  generation_le : s.generation ≤ t.generation
  access_of_eq : s.generation = t.generation →
    t.get .access = s.get .access ∨ t.get .access = none

namespace Outlasts

variable {s t u : Store β}

theorem refl (s : Store β) : s.Outlasts s := ⟨Nat.le_refl _, fun _ => Or.inl rfl⟩

/-- A generation that is the same at both ends was the same in between, so the token can have got
lost before or after, but not have been replaced. -/
theorem trans (hst : s.Outlasts t) (htu : t.Outlasts u) : s.Outlasts u := by
  have hfirst := hst.generation_le
  have hsecond := htu.generation_le
  refine ⟨Nat.le_trans hfirst hsecond, fun hsame => ?_⟩
  have hst' : s.generation = t.generation := by omega
  have htu' : t.generation = u.generation := by omega
  obtain hkept | hgone := htu.access_of_eq htu'
  · rw [hkept]
    exact hst.access_of_eq hst'
  · exact Or.inr hgone

end Outlasts

variable [Backend β]

theorem outlasts_perform (s : Store β) (op : StoreOperation) : s.Outlasts (s.perform op).2 := by
  obtain ⟨hgains, hkeeps⟩ := s.generation_perform op
  by_cases h : s.GainsToken (s.perform op).2
  · have hgrows := hgains h
    refine ⟨by omega, fun hsame => ?_⟩
    omega
  · have hsame := hkeeps h
    refine ⟨by omega, fun _ => ?_⟩
    by_cases hgone : (s.perform op).2.get .access = none
    · exact Or.inr hgone
    · refine Or.inl (Decidable.byContradiction fun hreplaced => ?_)
      exact h ⟨hgone, hreplaced⟩

/-- **Two moments.** What holds from before an operation to after it holds from the start of a run
to its end. -/
theorem outlasts_performAll (s : Store β) (ops : List StoreOperation) :
    s.Outlasts (s.performAll ops) := by
  induction ops generalizing s with
  | nil => exact .refl s
  | cons op ops ih =>
    have hfirst := s.outlasts_perform op
    exact hfirst.trans (ih (s.perform op).2)

theorem performAll_append (s : Store β) (ops more : List StoreOperation) :
    s.performAll (ops ++ more) = (s.performAll ops).performAll more := by
  induction ops generalizing s with
  | nil => rfl
  | cons op ops ih => exact ih (s.perform op).2

/-- **A generation names one access token.** Whatever is done with a store, reads, writes and
operations on peers, refused or not: the generation grows by exactly one at an operation after which
there is an access token that differs from what was there before, and no other operation changes it.
So it never decreases, and wherever it is the same at two moments of a run, the access token at the
later one is that of the earlier one or absent. -/
theorem generation_names_token (s : Store β) (ops : List StoreOperation) :
    (∀ op,
      let before := s.performAll ops
      let after := (before.perform op).2
      (after.get .access ≠ none ∧ after.get .access ≠ before.get .access →
        after.generation = before.generation + 1) ∧
      (¬ (after.get .access ≠ none ∧ after.get .access ≠ before.get .access) →
        after.generation = before.generation)) ∧
    ∀ more,
      let earlier := s.performAll ops
      let later := s.performAll (ops ++ more)
      earlier.generation ≤ later.generation ∧
      (earlier.generation = later.generation →
        later.get .access = earlier.get .access ∨ later.get .access = none) := by
  refine ⟨fun op => (s.performAll ops).generation_perform op, fun more => ?_⟩
  have hlater := (s.performAll ops).outlasts_performAll more
  rw [← performAll_append] at hlater
  exact ⟨hlater.generation_le, hlater.access_of_eq⟩

/-- A token that is there is written once more, which is not counted; the session is cleared, which
is not either; then the same token is installed again, and that is a new generation. -/
theorem generation_names_token_reinstalled :
    let now : Moment := ⟨⟨2024, 2, 29⟩, 23, 59, 58, 120000000⟩
    let opened : Store RecordingBackend :=
      load { initial := some { session := ⟨some "a1", some "r1"⟩ } }
    let ops : List StoreOperation := [.write now (.set .access "a1"), .ask .session]
    let more : List StoreOperation := [.write now (.clear .session)]
    let again : StoreOperation := .write now (.set .access "a1")
    let later := opened.performAll (ops ++ more)
    (opened.performAll ops).get .access = some "a1" ∧ later.get .access = none ∧
      (opened.performAll ops).generation = later.generation ∧
      (later.perform again).2.generation = later.generation + 1 := by
  intro now opened ops more again later
  obtain ⟨-, hmoments⟩ := opened.generation_names_token ops
  obtain ⟨hagain, -⟩ := opened.generation_names_token (ops ++ more)
  have hthere : (opened.performAll ops).get .access = some "a1" := by decide
  have hsame : (opened.performAll ops).generation = later.generation := by decide
  have hgone : later.get .access = none := by
    obtain hkept | hgone := (hmoments more).2 hsame
    · exact absurd hkept (by decide)
    · exact hgone
  refine ⟨hthere, hgone, hsame, ?_⟩
  exact (hagain again).1 ⟨by decide, by decide⟩

end Store

end AdminConsole
