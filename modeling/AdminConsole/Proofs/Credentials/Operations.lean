import AdminConsole.Credentials.Store

/-!
# Sequences of operations on a store

Reading a store leaves it as it is, so what happens to a store in the course of time is a list of
the other operations with the moments at which they are made (`Store.applyAll`). Each of them is one
of two things. Either it is **accepted** (`Store.accepts`) and then writes: credentials are put
together, get the time, and are handed to the backend (`Store.exists_apply_eq_write`). Or it leaves
everything as it is but for the selected peer (`Store.exists_apply_eq_peer`).

The selected peer has no part in the first, so with all operations on peers left out the same
happens to the rest of the store (`Store.clearPeer_applyAll`).
-/

namespace AdminConsole

open AdminConsole.Time

namespace StoreWrite

/-- The operation is about the selected peer and nothing else. -/
def concernsPeer : StoreWrite → Bool
  | .setPeer _ | .clearPeer => true
  | .set _ _ | .clear _ | .setSession _ | .renew _ _ _ | .clearIf _ => false

end StoreWrite

namespace Store

variable {β : Type}

/-- Whether an operation is a write to the credentials that is made: a renewal and a conditional
clearing are refused where the session does not hold the refresh token any more. -/
def accepts (s : Store β) : StoreWrite → Bool
  | .set _ _ | .clear _ | .setSession _ => true
  | .renew used _ _ | .clearIf used => s.holds used
  | .setPeer _ | .clearPeer => false

variable [Backend β]

/-- The store after a sequence of operations. -/
def applyAll (s : Store β) : List (Moment × StoreWrite) → Store β
  | [] => s
  | (now, w) :: ops => (s.apply now w).2.applyAll ops

/-- Whether an operation of a sequence is accepted. -/
def acceptsAny (s : Store β) : List (Moment × StoreWrite) → Bool
  | [] => false
  | (now, w) :: ops => s.accepts w || (s.apply now w).2.acceptsAny ops

/-! ### One operation -/

section Apply

variable {s : Store β} {w : StoreWrite}

/-- An accepted operation is a write. -/
theorem exists_apply_eq_write (h : s.accepts w = true) (now : Moment) :
    ∃ credentials, (s.apply now w).2 = s.write now credentials := by
  cases w with
  | set key value => exact ⟨_, rfl⟩
  | clear group => exact ⟨_, rfl⟩
  | setSession pair => exact ⟨_, rfl⟩
  | renew used access refresh =>
    have hholds : s.holds used = true := h
    refine ⟨{ s.stored with session := renewed access refresh s.stored.session }, ?_⟩
    simp only [apply, renew, hholds, if_true]
  | clearIf used =>
    have hholds : s.holds used = true := h
    refine ⟨s.stored.without .session, ?_⟩
    simp only [apply, clearIf, hholds, if_true]
  | setPeer peer => cases h
  | clearPeer => cases h

/-- An operation that is not accepted changes the selected peer at most. -/
theorem exists_apply_eq_peer (h : s.accepts w = false) (now : Moment) :
    ∃ peer, (s.apply now w).2 = { s with peer := peer } := by
  cases w with
  | renew used access refresh =>
    have hholds : s.holds used = false := h
    refine ⟨s.peer, ?_⟩
    simp [apply, renew, hholds]
  | clearIf used =>
    have hholds : s.holds used = false := h
    refine ⟨s.peer, ?_⟩
    simp [apply, clearIf, hholds]
  | setPeer peer => exact ⟨some peer, rfl⟩
  | clearPeer => exact ⟨none, rfl⟩
  | _ => cases h

/-- An operation that says whether it was accepted says so truly. -/
theorem accepts_eq_of_reply {now : Moment} {b : Bool} (h : (s.apply now w).1 = .accepted b) :
    s.accepts w = b := by
  cases w with
  | renew used access refresh =>
    cases hholds : s.holds used <;> simpa [apply, renew, accepts, hholds] using h
  | clearIf used =>
    cases hholds : s.holds used <;> simpa [apply, clearIf, accepts, hholds] using h
  | _ => cases h

theorem clearPeer_apply_of_concernsPeer (h : w.concernsPeer = true) (now : Moment) :
    (s.apply now w).2.clearPeer = s.clearPeer := by
  cases w with
  | setPeer peer => rfl
  | clearPeer => rfl
  | _ => cases h

/-- What an operation does to the rest of the store does not depend on the selected peer. -/
theorem clearPeer_apply (s : Store β) (w : StoreWrite) (now : Moment) :
    (s.apply now w).2.clearPeer = (s.clearPeer.apply now w).2.clearPeer := by
  have hholds (used : String) : s.clearPeer.holds used = s.holds used := rfl
  cases w with
  | renew used access refresh =>
    simp only [apply, renew, hholds]
    split <;> rfl
  | clearIf used =>
    simp only [apply, clearIf, hholds]
    split <;> rfl
  | _ => rfl

end Apply

/-! ### Sequences -/

/-- Where no operation is accepted the credentials and the backend stay as they are. -/
theorem applyAll_of_acceptsNone {s : Store β} {ops : List (Moment × StoreWrite)}
    (h : s.acceptsAny ops = false) : ∃ peer, s.applyAll ops = { s with peer := peer } := by
  induction ops generalizing s with
  | nil => exact ⟨s.peer, rfl⟩
  | cons op ops ih =>
    obtain ⟨hrefused, hrest⟩ := Bool.or_eq_false_iff.mp h
    obtain ⟨peer, hpeer⟩ := exists_apply_eq_peer hrefused op.1
    obtain ⟨peer', hpeer'⟩ := ih hrest
    refine ⟨peer', ?_⟩
    rw [applyAll, hpeer', hpeer]

/-- Once an operation was accepted the credentials are of the time of an operation. -/
theorem exists_savedAt_applyAll {s : Store β} {ops : List (Moment × StoreWrite)}
    (h : s.acceptsAny ops = true) :
    ∃ op ∈ ops, (s.applyAll ops).stored.savedAt = some op.1 := by
  induction ops generalizing s with
  | nil => cases h
  | cons op ops ih =>
    by_cases hrest : (s.apply op.1 op.2).2.acceptsAny ops = true
    · obtain ⟨op', hmem, hsaved⟩ := ih hrest
      exact ⟨op', List.mem_cons_of_mem op hmem, hsaved⟩
    · -- This operation is the last one that is accepted.
      have haccepts : s.accepts op.2 = true := by
        obtain haccepts | hlater := Bool.or_eq_true_iff.mp h
        · exact haccepts
        · exact absurd hlater hrest
      obtain ⟨credentials, hwrite⟩ := exists_apply_eq_write haccepts op.1
      obtain ⟨peer, hpeer⟩ := applyAll_of_acceptsNone (eq_false_of_ne_true hrest)
      refine ⟨op, List.mem_cons_self, ?_⟩
      rw [applyAll, hpeer, hwrite]
      rfl

theorem clearPeer_applyAll_clearPeer (s : Store β) (ops : List (Moment × StoreWrite)) :
    (s.applyAll ops).clearPeer = (s.clearPeer.applyAll ops).clearPeer := by
  induction ops generalizing s with
  | nil => rfl
  | cons op ops ih =>
    calc (s.applyAll (op :: ops)).clearPeer
        = ((s.apply op.1 op.2).2.clearPeer.applyAll ops).clearPeer := ih _
      _ = ((s.clearPeer.apply op.1 op.2).2.clearPeer.applyAll ops).clearPeer := by
          rw [clearPeer_apply]
      _ = (s.clearPeer.applyAll (op :: ops)).clearPeer := (ih _).symm

/-- **Peers have no part in the rest of the store**: the operations on them can be left out. -/
theorem clearPeer_applyAll (s : Store β) (ops : List (Moment × StoreWrite)) :
    (s.applyAll ops).clearPeer =
      (s.applyAll (ops.filter fun op => !op.2.concernsPeer)).clearPeer := by
  induction ops generalizing s with
  | nil => rfl
  | cons op ops ih =>
    cases hconcerns : op.2.concernsPeer with
    | false =>
      rw [List.filter_cons_of_pos (by simp [hconcerns])]
      exact ih _
    | true =>
      rw [List.filter_cons_of_neg (by simp [hconcerns])]
      calc (s.applyAll (op :: ops)).clearPeer
          = ((s.apply op.1 op.2).2.clearPeer.applyAll ops).clearPeer :=
            clearPeer_applyAll_clearPeer _ ops
        _ = (s.clearPeer.applyAll ops).clearPeer := by
            rw [clearPeer_apply_of_concernsPeer hconcerns]
        _ = (s.applyAll ops).clearPeer := (clearPeer_applyAll_clearPeer s ops).symm
        _ = (s.applyAll (ops.filter fun op => !op.2.concernsPeer)).clearPeer := ih s

end Store

end AdminConsole
