import AdminConsole.Console.Stretch
import AdminConsole.Proofs.Console.Run

/-!
# Runs in stretches

Where nothing is interleaved with a caller between two waits, its steps come in stretches. Two facts
make stretches as easy to reason about as single steps. A run in stretches is a run
(`exists_run_of_stretchRun`), so that whatever holds in every state of every run holds between
stretches as well. And a stretch of a caller is computed by `glide`, which looks at the caller and
at what is shared but not at the list of callers (`stretch_eq`).
-/

namespace AdminConsole

open AdminConsole.Time

namespace Console

variable {β : Type} [Backend β]

/-! ### Runs in stretches -/

/-- The console after an event, where whoever takes a step goes on up to its next wait. -/
def stretchStep (now : Moment) (e : Event) (c : Console β) : Console β :=
  match e with
  | .advance caller => c.stretch now caller
  | .advanceCycle id => c.stretchCycle now id
  | e => c.step now e

/-- The console after a sequence of events between which nobody stops but to wait. -/
def stretchRun (c : Console β) : List (Moment × Event) → Console β
  | [] => c
  | (now, e) :: rest => stretchRun (c.stretchStep now e) rest

theorem exists_run_of_advanceWhile (now : Moment) (caller limit : Nat) (c : Console β) :
    ∃ s, c.advanceWhile now caller limit = c.run s := by
  induction limit generalizing c with
  | zero => exact ⟨[], rfl⟩
  | succ limit ih =>
    rw [advanceWhile]
    split
    · obtain ⟨s, hs⟩ := ih (c.advance now caller)
      exact ⟨(now, .advance caller) :: s, hs⟩
    · exact ⟨[], rfl⟩

theorem exists_run_of_advanceCycleWhile (now : Moment) (id : CycleId) (limit : Nat)
    (c : Console β) : ∃ s, c.advanceCycleWhile now id limit = c.run s := by
  induction limit generalizing c with
  | zero => exact ⟨[], rfl⟩
  | succ limit ih =>
    rw [advanceCycleWhile]
    split
    · obtain ⟨s, hs⟩ := ih (c.advanceCycle now id)
      exact ⟨(now, .advanceCycle id) :: s, hs⟩
    · exact ⟨[], rfl⟩

theorem exists_run_of_stretchStep (now : Moment) (e : Event) (c : Console β) :
    ∃ s, c.stretchStep now e = c.run s := by
  cases e with
  | advance caller => exact exists_run_of_advanceWhile now caller _ c
  | advanceCycle id => exact exists_run_of_advanceCycleWhile now id _ c
  | _ => exact ⟨[(now, _)], rfl⟩

/-- **Stretches.** A run in stretches is a run. -/
theorem exists_run_of_stretchRun (s : List (Moment × Event)) (c : Console β) :
    ∃ t, c.stretchRun s = c.run t := by
  induction s generalizing c with
  | nil => exact ⟨[], rfl⟩
  | cons x rest ih =>
    obtain ⟨t, ht⟩ := exists_run_of_stretchStep x.1 x.2 c
    obtain ⟨u, hu⟩ := ih (c.stretchStep x.1 x.2)
    refine ⟨t ++ u, ?_⟩
    rw [run_append, ← ht]
    exact hu

theorem reachable_stretchRun {c : Console β} (h : c.Reachable) (s : List (Moment × Event)) :
    (c.stretchRun s).Reachable := by
  obtain ⟨t, ht⟩ := exists_run_of_stretchRun s c
  exact ht ▸ h.run t

/-! ### Steps do not look at the list of callers -/

theorem stepExchange_withCallers (now : Moment) (caller : Nat) (x : Exchange)
    (callers : List Activity) (c : Console β) :
    ({ c with callers := callers }).stepExchange now caller x =
      ((c.stepExchange now caller x).1,
        { (c.stepExchange now caller x).2 with callers := callers }) := by
  cases x with
  | preparing request scope todo =>
    cases todo with
    | nil => rfl
    | cons a rest =>
      simp only [stepExchange]
      split <;> rfl
  | joining request scope response =>
    simp only [stepExchange, joinOrStart_withCallers]
    cases c.joinOrStart request.bearer with
    | mk joined c' => cases joined <;> rfl
  | waiting request scope response id =>
    simp only [stepExchange, outcome?]
    split <;> rfl
  | reconsidering request scope response =>
    simp only [stepExchange]
    split <;> rfl
  | _ => rfl

theorem stepActivity_withCallers (now : Moment) (caller : Nat) (a : Activity)
    (callers : List Activity) (c : Console β) :
    ({ c with callers := callers }).stepActivity now caller a =
      ((c.stepActivity now caller a).1,
        { (c.stepActivity now caller a).2 with callers := callers }) := by
  cases a with
  | exchange goal x =>
    cases x with
    | finished result => rfl
    | _ => simp only [stepActivity, stepExchange_withCallers]
  | leaving =>
    have hsame : ({ c with callers := callers }).isAuthenticated = c.isAuthenticated := rfl
    cases hsigned : c.isAuthenticated <;>
      simp only [stepActivity, hsame, hsigned, if_true, if_false, Bool.false_eq_true]
  | joining sent =>
    simp only [stepActivity, joinOrStart_withCallers]
    cases c.joinOrStart sent with
    | mk joined c' => cases joined <;> rfl
  | waiting id =>
    simp only [stepActivity, outcome?]
    split <;> rfl
  | _ => rfl

/-! ### A stretch of a caller -/

/-- Whether a caller that stands at `a` can go on by itself. -/
def mayAdvance (c : Console β) : Activity → Bool
  | .finished _ | .cancelled | .exchange _ (.inFlight _ _) => false
  | .exchange _ (.waiting _ _ _ id) | .waiting id => (c.outcome? id).isSome
  | _ => true

/-- Up to `limit` steps of a caller that stands at `a`, for as long as it can go on by itself: where
it comes to stand, and what it makes of what is shared. -/
def glide (now : Moment) (caller : Nat) : Nat → Activity → Console β → Activity × Console β
  | 0, a, c => (a, c)
  | limit + 1, a, c =>
    if c.mayAdvance a then
      glide now caller limit (c.stepActivity now caller a).1 (c.stepActivity now caller a).2
    else (a, c)

theorem glide_succ {now : Moment} {caller limit : Nat} {a : Activity} {c : Console β}
    (h : c.mayAdvance a = true) :
    glide now caller (limit + 1) a c =
      glide now caller limit (c.stepActivity now caller a).1 (c.stepActivity now caller a).2 := by
  rw [glide, if_pos h]

theorem glide_withCallers (now : Moment) (caller limit : Nat) (a : Activity)
    (callers : List Activity) (c : Console β) :
    glide now caller limit a { c with callers := callers } =
      ((glide now caller limit a c).1,
        { (glide now caller limit a c).2 with callers := callers }) := by
  induction limit generalizing a c with
  | zero => rfl
  | succ limit ih =>
    have hmay : ({ c with callers := callers }).mayAdvance a = c.mayAdvance a := rfl
    rw [glide, glide, hmay, stepActivity_withCallers, ih]
    split <;> rfl

theorem advanceWhile_eq {now : Moment} {caller limit : Nat} {a : Activity} {c : Console β}
    (h : c.callers[caller]? = some a) :
    c.advanceWhile now caller limit =
      { (glide now caller limit a c).2 with
        callers := c.callers.set caller (glide now caller limit a c).1 } := by
  induction limit generalizing a c with
  | zero =>
    obtain ⟨hlt, rfl⟩ := List.getElem?_eq_some_iff.mp h
    rw [glide, List.set_getElem_self]
    rfl
  | succ limit ih =>
    have hlt : caller < c.callers.length := (List.getElem?_eq_some_iff.mp h).1
    -- whether the caller can go on is read off where it stands
    have hmay : c.canAdvance caller = c.mayAdvance a := by
      unfold canAdvance mayAdvance
      rw [h]
      cases a with
      | exchange goal x => cases x <;> rfl
      | _ => rfl
    rw [advanceWhile, glide, hmay]
    split
    · rw [advance_of_getElem? h, callers_stepActivity,
        ih (a := (c.stepActivity now caller a).1) (List.getElem?_set_self hlt), glide_withCallers]
      dsimp only
      rw [List.set_set]
    · obtain ⟨hlt, rfl⟩ := List.getElem?_eq_some_iff.mp h
      rw [List.set_getElem_self]

/-- **A stretch of a caller.** -/
theorem stretch_eq {now : Moment} {caller : Nat} {a : Activity} {c : Console β}
    (h : c.callers[caller]? = some a) :
    c.stretch now caller =
      { (glide now caller stretchLimit a c).2 with
        callers := c.callers.set caller (glide now caller stretchLimit a c).1 } :=
  advanceWhile_eq h

end Console

end AdminConsole
