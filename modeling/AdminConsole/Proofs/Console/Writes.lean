import AdminConsole.Proofs.Console.Run

/-!
# What is written to the store

An event makes at most one write to the store, and `Console.write?` reads off the state which one it
is: `store_step` says that the store afterwards is what this write makes of it. What becomes of the
session, of the tunnel tokens or of the generation in a run is therefore a matter of the seven
writes, and no other step has to be looked at again.
-/

namespace AdminConsole

open AdminConsole.Time

/-! ### Kinds of writes -/

namespace StoreWrite

/-- The write says itself what is in the session afterwards, whatever was in it before. -/
def choosesSession : StoreWrite → Bool
  | .setSession _ | .set .access _ | .set .refresh _ => true
  | .set .tunnel _ | .set .tunnelServer _ | .clear _ | .renew _ _ _ | .clearIf _ | .setPeer _
  | .clearPeer => false

/-- The write is none to the session. -/
def sparesSession : StoreWrite → Bool
  | .set .tunnel _ | .set .tunnelServer _ | .clear .tunnel | .clear .tunnelServer | .setPeer _
  | .clearPeer => true
  | .set .access _ | .set .refresh _ | .clear .session | .clear .all | .setSession _
  | .renew _ _ _ | .clearIf _ => false

/-- The write is none to the tokens of the tunnels. -/
def sparesTunnels : StoreWrite → Bool
  | .set .access _ | .set .refresh _ | .clear .session | .setSession _ | .renew _ _ _ | .clearIf _
  | .setPeer _ | .clearPeer => true
  | .set .tunnel _ | .set .tunnelServer _ | .clear .tunnel | .clear .tunnelServer | .clear .all =>
    false

end StoreWrite

namespace Store

variable {β : Type} [Backend β]

/-- The store after a write, if there is one. -/
def after (now : Moment) (w : Option StoreWrite) (s : Store β) : Store β :=
  match w with
  | some w => (s.apply now w).2
  | none => s

section Writes

variable (now : Moment) (w : StoreWrite) (s : Store β)

/-- **Empty sessions.** Only who says what is in it can fill an empty session. -/
theorem session_apply_of_empty (hempty : s.session = {}) (hw : w.choosesSession = false) :
    (s.apply now w).2.session = {} := by
  -- nothing holds a refresh token
  have hholds : ∀ used, s.session.refresh ≠ some used := by simp [hempty]
  cases w with
  | set key value => cases key <;> first | exact hempty | cases hw
  | clear group => cases group <;> first | rfl | exact hempty
  | setSession pair => cases hw
  | renew used access refresh =>
    have hsettle := settle_of_not_holds (hholds used) now (.ok ⟨access, refresh⟩)
    exact (congrArg session hsettle).trans hempty
  | clearIf used =>
    have hsettle := settle_of_not_holds (hholds used) now (.error .superseded)
    exact (congrArg session hsettle).trans hempty
  | setPeer peer => exact hempty
  | clearPeer => exact hempty

theorem session_apply_of_spares (hw : w.sparesSession = true) :
    (s.apply now w).2.session = s.session := by
  cases w with
  | set key value => cases key <;> first | rfl | cases hw
  | clear group => cases group <;> first | rfl | cases hw
  | setPeer peer => rfl
  | clearPeer => rfl
  | _ => cases hw

theorem tunnelTokens_apply_of_spares (hw : w.sparesTunnels = true) :
    (s.apply now w).2.stored.tunnelToken = s.stored.tunnelToken ∧
      (s.apply now w).2.stored.tunnelServerToken = s.stored.tunnelServerToken := by
  cases w with
  | set key value => cases key <;> first | exact ⟨rfl, rfl⟩ | cases hw
  | clear group => cases group <;> first | exact ⟨rfl, rfl⟩ | cases hw
  | renew used access refresh =>
    simp only [apply, renew]
    split <;> exact ⟨rfl, rfl⟩
  | clearIf used =>
    simp only [apply, clearIf]
    split <;> exact ⟨rfl, rfl⟩
  | _ => exact ⟨rfl, rfl⟩

theorem generation_le_write (credentials : StoredCredentials) :
    s.generation ≤ (s.write now credentials).generation := by
  simp only [write]
  split
  · exact Nat.le_succ _
  · exact Nat.le_refl _

/-- **Generations.** The generation never goes back. -/
theorem generation_le_apply : s.generation ≤ (s.apply now w).2.generation := by
  cases w with
  | set key value => exact generation_le_write now s _
  | clear group => exact generation_le_write now s _
  | setSession pair => exact generation_le_write now s _
  | renew used access refresh =>
    simp only [apply, renew]
    split
    · exact generation_le_write now s _
    · exact Nat.le_refl _
  | clearIf used =>
    simp only [apply, clearIf]
    split
    · exact generation_le_write now s _
    · exact Nat.le_refl _
  | setPeer peer => exact Nat.le_refl _
  | clearPeer => exact Nat.le_refl _

end Writes

end Store

/-! ### The write of an event -/

/-- The write that a request makes in its next step. -/
def Exchange.write? : Exchange → Option StoreWrite
  | .droppingPeer _ => some .clearPeer
  | .clearing _ _ => some (.clear .session)
  | .preparing _ _ _ | .inFlight _ _ | .failed _ _ _ | .joining _ _ _ | .waiting _ _ _ _
  | .reconsidering _ _ _ | .cleared _ _ | .redirecting _ _ _ | .navigating _ | .finished _ => none

/-- The write that a caller makes in its next step. -/
def Activity.write? : Activity → Option StoreWrite
  | .exchange _ x => x.write?
  | .installing pair => some (.setSession pair)
  | .keeping token => some (.set .tunnelServer token)
  | .closing => some (.clear .session)
  | .parting => some .clearPeer
  | .writing w => some w
  | .rearming _ | .leaving | .asking | .joining _ | .waiting _ | .arming | .redirecting _ _
  | .navigating | .finished _ | .cancelled => none

/-- What writes is a write. -/
theorem Activity.write?_of_effect {a : Activity} {w : StoreWrite} (h : a.effect = .writes w) :
    a.write? = some w := by
  cases a with
  | exchange goal x =>
    cases x with
    | preparing request scope todo => cases todo <;> cases h
    | _ => cases h <;> rfl
  | _ => cases h <;> rfl

/-- The write that a cycle makes in its next step. -/
def Cycle.write? (cycle : Cycle) : Option StoreWrite :=
  match cycle.stage with
  | .answered (.ok tokens) => some (.renew cycle.refreshToken tokens.access tokens.refresh)
  | .answered (.error _) => some (.clearIf cycle.refreshToken)
  | .ready | .inFlight | .written _ | .released _ | .settled _ | .dead => none

namespace Console

variable {β : Type}

/-- The write that is made in an event. -/
def write? (e : Event) (c : Console β) : Option StoreWrite :=
  match e with
  | .advance caller => c.callers[caller]?.bind Activity.write?
  | .advanceCycle id => c.cycles[id]?.bind Cycle.write?
  | .start _ | .answer _ _ | .cancel _ | .answerCycle _ _ | .killCycle _ => none

theorem store_joinOrStart (sent : Option String) (c : Console β) :
    (c.joinOrStart sent).2.store = c.store := by
  obtain ⟨pending, cycles, heq⟩ := exists_joinOrStart_eq sent c
  rw [heq]

variable [Backend β]

theorem store_stepActivity (now : Moment) (caller : Nat) (a : Activity) (c : Console β) :
    (c.stepActivity now caller a).2.store = c.store.after now a.write? := by
  rw [stepActivity_snd]
  cases a with
  | exchange goal x =>
    cases x with
    | preparing request scope todo => cases todo <;> rfl
    | joining request scope response => exact store_joinOrStart request.bearer c
    | _ => rfl
  | joining sent => exact store_joinOrStart sent c
  | _ => rfl

/-- **Writes.** An event does to the store what its write does, and nothing else. -/
theorem store_step (now : Moment) (e : Event) (c : Console β) :
    (c.step now e).store = c.store.after now (c.write? e) := by
  cases e with
  | advance caller =>
    cases ha : c.callers[caller]? with
    | none =>
      rw [step, advance_of_getElem?_none ha, write?, ha]
      rfl
    | some a =>
      rw [step, advance_of_getElem? ha, write?, ha]
      exact store_stepActivity now caller a c
  | advanceCycle id =>
    cases hid : c.cycles[id]? with
    | none =>
      rw [step, advanceCycle_of_getElem?_none hid, write?, hid]
      rfl
    | some cycle =>
      obtain ⟨used, stage⟩ := cycle
      rw [step, advanceCycle_of_getElem? hid, write?, hid]
      cases stage with
      | answered tokens => cases tokens <;> rfl
      | _ => rfl
  | _ => exact frame_step Console.store (fun _ _ => rfl) rfl now

/-- An event without a write leaves the store as it is. -/
theorem store_step_of_no_write {c : Console β} {e : Event} (h : c.write? e = none) (now : Moment) :
    (c.step now e).store = c.store := by
  rw [store_step, h]
  rfl

theorem generation_le_step (now : Moment) (e : Event) (c : Console β) :
    c.store.generation ≤ (c.step now e).store.generation := by
  rw [store_step]
  cases c.write? e with
  | none => exact Nat.le_refl _
  | some w => exact Store.generation_le_apply now w c.store

/-- All writes of a run are of a kind. -/
def Writes (P : StoreWrite → Prop) : Console β → List (Moment × Event) → Prop :=
  Obeys fun c e => ∀ w, c.write? e = some w → P w

/-- What every write of a kind keeps, every run with writes of that kind keeps. -/
theorem store_run_induction {P : StoreWrite → Prop} {Q : Store β → Prop}
    (hwrite : ∀ now w s, Q s → P w → Q (s.apply now w).2) {c : Console β}
    {s : List (Moment × Event)} (hc : Q c.store) (hs : c.Writes P s) : Q (c.run s).store := by
  refine run_induction (P := fun c => Q c.store) (fun c now e hQ hadmits => ?_) hc hs
  rw [store_step]
  cases hw : c.write? e with
  | none => exact hQ
  | some w => exact hwrite now w c.store hQ (hadmits w hw)

/-- An empty session stays empty until somebody says what is in it. -/
theorem session_run_of_empty {c : Console β} (hempty : c.store.session = {})
    {s : List (Moment × Event)} (hs : c.Writes (fun w => w.choosesSession = false) s) :
    (c.run s).store.session = {} :=
  store_run_induction (fun now w store => store.session_apply_of_empty now w) hempty hs

end Console

end AdminConsole
