import AdminConsole.Proofs.Credentials.Operations

/-!
# Where a blank credential comes from

A blank text is no credential: it is not kept where one credential is set, and not where a renewal
brings one. But two ways into a store have no such check. What a backend has kept is taken as it
stands when a store is opened, and so is a pair that replaces the session.

These are all (`Store.get_applyAll_blank_iff`): a blank text stands for a key exactly if it came in
by one of the two ways and nothing has been written for that key since (`Store.Unchecked`). The
proof goes through what one operation puts in the place of one credential (`StoreWrite.puts`), by
which `Store.get_apply` says what is held after an operation.
-/

namespace AdminConsole

open AdminConsole.Text AdminConsole.Time

/-! ### What an operation puts in the place of a credential -/

/-- The credentials of a group. -/
def CredentialGroup.covers : CredentialGroup → CredentialKey → Bool
  | .session, .access | .session, .refresh => true
  | .session, .tunnel | .session, .tunnelServer => false
  | .tunnel, key => key == .tunnel
  | .tunnelServer, key => key == .tunnelServer
  | .all, _ => true

theorem StoredCredentials.get_without (c : StoredCredentials) (group : CredentialGroup)
    (key : CredentialKey) :
    (c.without group).get key = if group.covers key then none else c.get key := by
  cases group <;> cases key <;> rfl

/-- What an operation puts in the place of a credential, if it is accepted. There is nothing that it
puts there where it leaves the credential alone. -/
def StoreWrite.puts : StoreWrite → CredentialKey → Option (Option String)
  | .set k value, key => if key = k then some (nonBlank? value) else none
  | .clear group, key => if group.covers key then some none else none
  | .setSession pair, .access => some pair.access
  | .setSession pair, .refresh => some pair.refresh
  | .renew _ access _, .access => some (nonBlank? access)
  | .renew _ _ refresh, .refresh => (refresh.bind nonBlank?).map some
  | .clearIf _, key => if CredentialGroup.session.covers key then some none else none
  | .setSession _, .tunnel | .setSession _, .tunnelServer | .renew _ _ _, .tunnel
  | .renew _ _ _, .tunnelServer | .setPeer _, _ | .clearPeer, _ => none

theorem nonBlank?_ne_some {t : String} (ht : isBlank t = true) (value : String) :
    nonBlank? value ≠ some t := by
  intro h
  obtain ⟨-, hnot⟩ := nonBlank?_eq_some_iff.mp h
  obtain ⟨rfl, -⟩ := nonBlank?_eq_some_iff.mp h
  exact Bool.false_ne_true (hnot.symm.trans ht)

/-- Of all operations only the one that takes a pair as it is puts a blank text anywhere. -/
theorem StoreWrite.exists_eq_setSession {w : StoreWrite} {key : CredentialKey} {t : String}
    (ht : isBlank t = true) (h : w.puts key = some (some t)) :
    ∃ pair, w = .setSession pair := by
  cases w with
  | setSession pair => exact ⟨pair, rfl⟩
  | set k value =>
    simp only [puts] at h
    split at h
    · exact absurd (Option.some.inj h) (nonBlank?_ne_some ht value)
    · cases h
  | renew used access refresh =>
    cases key with
    | access => exact absurd (Option.some.inj h) (nonBlank?_ne_some ht access)
    | refresh =>
      simp only [puts, Option.map_eq_some_iff, Option.bind_eq_some_iff] at h
      obtain ⟨kept, ⟨value, -, hvalue⟩, hkept⟩ := h
      obtain rfl : kept = t := Option.some.inj hkept
      exact absurd hvalue (nonBlank?_ne_some ht value)
    | tunnel => cases h
    | tunnelServer => cases h
  | clear group =>
    simp only [puts] at h
    split at h <;> cases h
  | clearIf used =>
    simp only [puts] at h
    split at h <;> cases h
  | setPeer peer => cases h
  | clearPeer => cases h

namespace Store

variable {β : Type} [Backend β] {key : CredentialKey} {t : String}

/-- **One operation, one credential.** What is held for a key after an operation is what an accepted
one puts there, and otherwise what was held before. -/
theorem get_apply (s : Store β) (now : Moment) (w : StoreWrite) (key : CredentialKey) :
    (s.apply now w).2.get key =
      if s.accepts w then (w.puts key).getD (s.get key) else s.get key := by
  cases haccepts : s.accepts w with
  | false =>
    obtain ⟨peer, hpeer⟩ := exists_apply_eq_peer haccepts now
    rw [hpeer]
    rfl
  | true =>
    rw [if_pos rfl]
    cases w with
    | set k value =>
      show (s.stored.set k (nonBlank? value)).get key = _
      simp only [StoreWrite.puts]
      by_cases hkey : key = k
      · rw [if_pos hkey, hkey, StoredCredentials.get_set_self, Option.getD_some]
      · rw [if_neg hkey, StoredCredentials.get_set_of_ne s.stored _ hkey]
        rfl
    | clear group =>
      have hget := s.stored.get_without group key
      show (s.stored.without group).get key = _
      rw [hget]
      simp only [StoreWrite.puts]
      split <;> rfl
    | setSession pair => cases key <;> rfl
    | renew used access refresh =>
      have hholds : s.holds used = true := haccepts
      simp only [apply, renew, hholds, if_true]
      cases key with
      | refresh =>
        show (refresh.bind nonBlank?).or s.stored.session.refresh = _
        simp only [StoreWrite.puts]
        cases refresh.bind nonBlank? <;> rfl
      | _ => rfl
    | clearIf used =>
      have hholds : s.holds used = true := haccepts
      have hget := s.stored.get_without .session key
      simp only [apply, clearIf, hholds, if_true]
      show (s.stored.without .session).get key = _
      rw [hget]
      simp only [StoreWrite.puts]
      split <;> rfl
    | setPeer peer => cases haccepts
    | clearPeer => cases haccepts

/-- Whether an operation of a sequence puts something in the place of a credential. -/
def rewrites (key : CredentialKey) (s : Store β) : List (Moment × StoreWrite) → Bool
  | [] => false
  | (now, w) :: ops =>
    s.accepts w && (w.puts key).isSome || (s.apply now w).2.rewrites key ops

theorem get_apply_of_not_rewrites {s : Store β} {w : StoreWrite}
    (h : (s.accepts w && (w.puts key).isSome) = false) (now : Moment) :
    (s.apply now w).2.get key = s.get key := by
  rw [get_apply]
  cases haccepts : s.accepts w with
  | false => rfl
  | true =>
    rw [haccepts, Bool.true_and, Option.isSome_eq_false_iff, Option.isNone_iff_eq_none] at h
    rw [if_pos rfl, h, Option.getD_none]

/-- A text stands for a key **unchecked**: it was there when the store was opened, or in a pair that
replaced the session, and nothing has been put in its place since. -/
inductive Unchecked (key : CredentialKey) (t : String) :
    Store β → List (Moment × StoreWrite) → Prop
  | opened {s : Store β} {ops : List (Moment × StoreWrite)} (hheld : s.get key = some t)
      (hkept : s.rewrites key ops = false) : Unchecked key t s ops
  | replaced {s : Store β} (now : Moment) {pair : TokenPair} {ops : List (Moment × StoreWrite)}
      (hputs : (StoreWrite.setSession pair).puts key = some (some t))
      (hkept : (s.setSession now pair).rewrites key ops = false) :
      Unchecked key t s ((now, .setSession pair) :: ops)
  | later {s : Store β} {now : Moment} {w : StoreWrite} {ops : List (Moment × StoreWrite)}
      (h : Unchecked key t (s.apply now w).2 ops) : Unchecked key t s ((now, w) :: ops)

/-- What stands unchecked is held. -/
theorem Unchecked.get_applyAll {s : Store β} {ops : List (Moment × StoreWrite)}
    (h : Unchecked key t s ops) : (s.applyAll ops).get key = some t := by
  have hkept : ∀ (ops : List (Moment × StoreWrite)) (s : Store β),
      s.rewrites key ops = false → (s.applyAll ops).get key = s.get key := by
    intro ops
    induction ops with
    | nil => exact fun _ _ => rfl
    | cons op ops ih =>
      intro s hs
      obtain ⟨hfirst, hrest⟩ := Bool.or_eq_false_iff.mp hs
      exact (ih _ hrest).trans (get_apply_of_not_rewrites hfirst op.1)
  induction h with
  | opened hheld hnone => exact (hkept _ _ hnone).trans hheld
  | @replaced s now pair ops hputs hnone =>
    have hget := get_apply s now (.setSession pair) key
    rw [hputs] at hget
    exact (hkept _ _ hnone).trans hget
  | later h ih => exact ih

/-- A blank text that is held after an operation was held before, and the operation has put nothing
in its place; or the operation has brought it with a pair. -/
theorem blank_of_get_apply (ht : isBlank t = true) {s : Store β} {now : Moment} {w : StoreWrite}
    (h : (s.apply now w).2.get key = some t) :
    (s.get key = some t ∧ (s.accepts w && (w.puts key).isSome) = false) ∨
      ∃ pair, w = .setSession pair ∧ w.puts key = some (some t) := by
  cases hfirst : s.accepts w && (w.puts key).isSome with
  | false =>
    rw [get_apply_of_not_rewrites hfirst now] at h
    exact .inl ⟨h, rfl⟩
  | true =>
    obtain ⟨haccepts, hsome⟩ := Bool.and_eq_true_iff.mp hfirst
    obtain ⟨put, hput⟩ := Option.isSome_iff_exists.mp hsome
    rw [get_apply, haccepts, if_pos rfl, hput, Option.getD_some] at h
    subst h
    obtain ⟨pair, rfl⟩ := StoreWrite.exists_eq_setSession ht hput
    exact .inr ⟨pair, rfl, hput⟩

/-- **Blank credentials.** A blank text is held exactly if it stands there unchecked. -/
theorem get_applyAll_blank_iff (ht : isBlank t = true) (s : Store β)
    (ops : List (Moment × StoreWrite)) :
    (s.applyAll ops).get key = some t ↔ Unchecked key t s ops := by
  refine ⟨fun h => ?_, Unchecked.get_applyAll⟩
  induction ops generalizing s with
  | nil => exact .opened h rfl
  | cons op ops ih =>
    obtain ⟨now, w⟩ := op
    cases ih _ h with
    | later hlater => exact .later (.later hlater)
    | replaced now' hputs hkept => exact .later (.replaced now' hputs hkept)
    | opened hheld hkept =>
      -- it was there after the first operation, and nothing that follows has been put in its place
      rcases blank_of_get_apply ht hheld with ⟨hbefore, hfirst⟩ | ⟨pair, rfl, hputs⟩
      · exact .opened hbefore (Bool.or_eq_false_iff.mpr ⟨hfirst, hkept⟩)
      · exact .replaced now hputs hkept

/-- A blank text that stands unchecked was there when the store was opened or came with a pair. -/
theorem Unchecked.origin (ht : isBlank t = true) {s : Store β} {ops : List (Moment × StoreWrite)}
    (h : Unchecked key t s ops) :
    s.get key = some t ∨ ∃ now pair, (now, StoreWrite.setSession pair) ∈ ops ∧
      (StoreWrite.setSession pair).puts key = some (some t) := by
  induction h with
  | opened hheld hkept => exact .inl hheld
  | replaced now hputs hkept => exact .inr ⟨now, _, List.mem_cons_self, hputs⟩
  | later h ih =>
    rcases ih with hheld | ⟨now', pair, hmem, hputs⟩
    · rcases blank_of_get_apply ht hheld with ⟨hbefore, -⟩ | ⟨pair, rfl, hputs⟩
      · exact .inl hbefore
      · exact .inr ⟨_, pair, List.mem_cons_self, hputs⟩
    · exact .inr ⟨now', pair, List.mem_cons_of_mem _ hmem, hputs⟩

end Store

end AdminConsole
