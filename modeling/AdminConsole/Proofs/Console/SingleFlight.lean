import AdminConsole.Proofs.Console.Run

/-!
# One renewal at a time

A cycle **settles** when it empties the slot: the store is written by then, and only afterwards do
those who wait hear of it. `SingleFlight` says that the slot holds the one cycle that has not
settled, and that a cycle sends one renewal; every step keeps it (`SingleFlight.step`), so it holds
in every state of every run.

Waiters have no part in this. An event that is no matter of a cycle leaves it where it stands
(`getElem?_cycles_run`), and a caller that goes away changes nothing but the list of callers
(`exists_run_cancels_eq`). So a cycle settles, once its renewal is answered, whatever happens to
those who wait for it (`SingleFlight.settles`).
-/

namespace AdminConsole

open AdminConsole.Time

/-! ### Stages and senders -/

/-- The stages of a cycle that has not emptied the slot. One that was cut short never will. -/
def CycleStage.isUnsettled : CycleStage → Bool
  | .ready | .inFlight | .answered _ | .written _ | .dead => true
  | .released _ | .settled _ => false

/-- The cycle is yet to send its renewal. -/
def Cycle.isReady (c : Cycle) : Bool :=
  match c.stage with
  | .ready => true
  | _ => false

/-- The request is that of a renewal cycle. -/
def Transmission.isRenewal (t : Transmission) : Bool :=
  match t.sender with
  | .cycle _ => true
  | .caller _ => false

/-- The event is the end of a caller. -/
def Event.isCancel : Event → Bool
  | .cancel _ => true
  | _ => false

/-- The event is no matter of this cycle. -/
def Event.spares (id : CycleId) : Event → Bool
  | .advanceCycle j | .answerCycle j _ | .killCycle j => j != id
  | .start _ | .advance _ | .answer _ _ | .cancel _ => true

namespace Console

variable {β : Type}

/-- The cycle was started and has not emptied the slot. -/
def Unsettled (c : Console β) (id : CycleId) : Prop :=
  ∃ cycle, c.cycles[id]? = some cycle ∧ cycle.stage.isUnsettled = true

/-- The cycle was started and has emptied the slot. -/
def Settled (c : Console β) (id : CycleId) : Prop :=
  ∃ cycle, c.cycles[id]? = some cycle ∧ cycle.stage.isUnsettled = false

/-- How many renewals were sent by cycles. -/
def renewalsSent (c : Console β) : Nat := c.log.countP Transmission.isRenewal

theorem renewalsSent_transmit_cycle (id : CycleId) (request : Request) (c : Console β) :
    (c.transmit (.cycle id) request).renewalsSent = c.renewalsSent + 1 :=
  List.countP_cons_of_pos rfl

/-- **Single flight.** The slot holds the cycle that has not settled, and each cycle sends one
renewal, when it leaves its first stage. -/
structure SingleFlight (c : Console β) : Prop where
  slot : ∀ id, c.pending = some id ↔ c.Unsettled id
  sent : c.renewalsSent + c.cycles.countP Cycle.isReady = c.cycles.length

theorem settled_or_unsettled {c : Console β} {id : CycleId} (h : id < c.cycles.length) :
    c.Unsettled id ∨ c.Settled id := by
  have hid : c.cycles[id]? = some c.cycles[id] := List.getElem?_eq_getElem h
  cases hstage : c.cycles[id].stage.isUnsettled with
  | true => exact Or.inl ⟨_, hid, hstage⟩
  | false => exact Or.inr ⟨_, hid, hstage⟩

theorem Unsettled.lt_length {c : Console β} {id : CycleId} (h : c.Unsettled id) :
    id < c.cycles.length := by
  obtain ⟨cycle, hid, -⟩ := h
  exact (List.getElem?_eq_some_iff.mp hid).1

theorem Settled.isReady {c : Console β} {id : CycleId} {cycle : Cycle} (h : c.Settled id)
    (hid : c.cycles[id]? = some cycle) : cycle.isReady = false := by
  obtain ⟨settled, hsettled, hstage⟩ := h
  rw [hsettled, Option.some_inj] at hid
  subst hid
  obtain ⟨used, stage⟩ := settled
  cases stage with
  | ready => cases hstage
  | _ => rfl

/-- Once no cycle is yet to send its renewal, as many renewals were sent as cycles started. -/
theorem SingleFlight.renewalsSent_eq {c : Console β} (h : c.SingleFlight)
    (hready : ∀ (id : CycleId) (cycle : Cycle), c.cycles[id]? = some cycle →
      cycle.isReady = false) : c.renewalsSent = c.cycles.length := by
  have hnone : c.cycles.countP Cycle.isReady = 0 := by
    refine List.countP_eq_zero.mpr fun cycle hmem => ?_
    obtain ⟨id, hid⟩ := List.mem_iff_getElem?.mp hmem
    rw [hready id cycle hid]
    exact Bool.false_ne_true
  have hsent := h.sent
  rwa [hnone] at hsent

/-- While no cycle is under way, as many renewals were sent as cycles started. -/
theorem SingleFlight.renewalsSent_of_idle {c : Console β} (h : c.SingleFlight)
    (hslot : c.pending = none) : c.renewalsSent = c.cycles.length := by
  refine h.renewalsSent_eq fun id cycle hid => Settled.isReady ?_ hid
  refine (settled_or_unsettled (List.getElem?_eq_some_iff.mp hid).1).resolve_left
    fun hunsettled => ?_
  rw [← h.slot, hslot] at hunsettled
  cases hunsettled

theorem singleFlight_opened (routes : RouteTable) (store : Store β) :
    (opened routes store).SingleFlight := by
  refine ⟨fun id => iff_of_false (by simp [opened]) ?_, rfl⟩
  rintro ⟨cycle, hid, -⟩
  simp [opened] at hid

/-! ### Cycles stay where they are -/

theorem Touch.length_cycles_le {caller : Nat} {c c' : Console β} (h : Touch caller c c') :
    c.cycles.length ≤ c'.cycles.length := by
  cases h with
  | started refreshToken hslot hrefresh => simp
  | _ => exact Nat.le_refl _

theorem length_cycles_goOn (id : CycleId) (stage : CycleStage) (c : Console β) :
    (c.goOn id stage).cycles.length = c.cycles.length := by
  obtain ⟨cycles, heq, hlength⟩ := exists_goOn_eq id stage c
  rw [heq, hlength]

theorem Touch.getElem?_cycles {caller : Nat} {c c' : Console β} (h : Touch caller c c')
    {id : CycleId} (hid : id < c.cycles.length) : c'.cycles[id]? = c.cycles[id]? := by
  cases h with
  | started refreshToken hslot hrefresh => exact List.getElem?_append_left hid
  | _ => rfl

theorem getElem?_cycles_goOn_of_ne {id j : CycleId} (hj : j ≠ id) (stage : CycleStage)
    (c : Console β) : (c.goOn j stage).cycles[id]? = c.cycles[id]? := by
  unfold goOn
  split
  · exact List.getElem?_set_ne hj
  · rfl

/-- A cycle goes on from its answer if it waits for that, and stays where it is otherwise. -/
theorem getElem?_cycles_goOn_self {id : CycleId} {stage : CycleStage} {cycle : Cycle}
    {c : Console β} (hid : (c.goOn id stage).cycles[id]? = some cycle) :
    c.cycles[id]? = some cycle ∨
      ∃ used, c.cycles[id]? = some ⟨used, .inFlight⟩ ∧ cycle = ⟨used, stage⟩ := by
  unfold goOn at hid
  split at hid
  · rename_i used hinFlight
    rw [List.getElem?_set_self (List.getElem?_eq_some_iff.mp hinFlight).1, Option.some_inj] at hid
    exact .inr ⟨used, hinFlight, hid.symm⟩
  · exact .inl hid

/-! ### Steps keep single flight -/

/-- Which cycles have not settled after one of them went on to another stage. -/
theorem unsettled_set_iff {c c' : Console β} {id j : CycleId} {refreshToken : String}
    {stage : CycleStage} (hid : id < c.cycles.length)
    (hcycles : c'.cycles = c.cycles.set id ⟨refreshToken, stage⟩) :
    c'.Unsettled j ↔ if j = id then stage.isUnsettled = true else c.Unsettled j := by
  unfold Unsettled
  rw [hcycles]
  split <;> rename_i h
  · subst h
    rw [List.getElem?_set_self hid]
    simp
  · rw [List.getElem?_set_ne (Ne.symm h)]

/-- How many cycles are yet to send their renewal after one of them went on. -/
theorem countP_isReady_set {c : Console β} {id : CycleId} {cycle : Cycle}
    (h : c.cycles[id]? = some cycle) (next : Cycle) :
    (c.cycles.set id next).countP Cycle.isReady + (if cycle.isReady then 1 else 0) =
      c.cycles.countP Cycle.isReady + (if next.isReady then 1 else 0) := by
  obtain ⟨hlt, hget⟩ := List.getElem?_eq_some_iff.mp h
  rw [List.countP_set hlt, hget]
  have hpos : cycle.isReady = true → 0 < c.cycles.countP Cycle.isReady := fun hready =>
    List.countP_pos_iff.mpr ⟨cycle, hget ▸ List.getElem_mem hlt, hready⟩
  split <;> rename_i hready
  · have := hpos hready
    omega
  · omega

theorem SingleFlight.congr {c c' : Console β} (h : c.SingleFlight)
    (hpending : c'.pending = c.pending) (hcycles : c'.cycles = c.cycles)
    (hsent : c'.renewalsSent = c.renewalsSent) : c'.SingleFlight where
  slot id := by rw [hpending, h.slot, Unsettled, Unsettled, hcycles]
  sent := by rw [hsent, hcycles, h.sent]

theorem SingleFlight.touch {caller : Nat} {c c' : Console β} (h : c.SingleFlight)
    (htouch : Touch caller c c') : c'.SingleFlight := by
  cases htouch with
  | nothing => exact h
  | sent request => exact h.congr rfl rfl rfl
  | started refreshToken hslot hrefresh =>
    -- a cycle is started only when the slot is empty, so the new one is alone
    have hnone : ∀ id, ¬ c.Unsettled id := fun id hid => by
      rw [← h.slot, hslot] at hid
      cases hid
    refine ⟨fun id => ?_, ?_⟩
    · simp only [Option.some.injEq]
      constructor
      · rintro rfl
        exact ⟨{ refreshToken := refreshToken }, List.getElem?_concat_length, rfl⟩
      · rintro ⟨cycle, hid, hstage⟩
        rcases Nat.lt_or_ge id c.cycles.length with hlt | hge
        · rw [List.getElem?_append_left hlt] at hid
          exact absurd ⟨cycle, hid, hstage⟩ (hnone id)
        · have hlt := (List.getElem?_eq_some_iff.mp hid).1
          rw [List.length_append, List.length_singleton] at hlt
          exact Nat.le_antisymm hge (Nat.lt_succ_iff.mp hlt)
    · have hsent := h.sent
      simp only [List.countP_append, List.length_append, List.length_singleton]
      rw [← hsent, Nat.add_assoc]
      rfl
  | wrote store => exact h.congr rfl rfl rfl
  | turned redirector => exact h.congr rfl rfl rfl

/-- A cycle that goes on keeps single flight if it settles no sooner than it leaves the slot, and
sends its renewal as it leaves its first stage. -/
theorem SingleFlight.move {c c' : Console β} {id : CycleId} {refreshToken : String}
    {old stage : CycleStage} (h : c.SingleFlight)
    (hid : c.cycles[id]? = some ⟨refreshToken, old⟩)
    (hcycles : c'.cycles = c.cycles.set id ⟨refreshToken, stage⟩)
    (hsettles : stage.isUnsettled = true → old.isUnsettled = true)
    (hpending : c'.pending =
      if old.isUnsettled = true ∧ stage.isUnsettled = false then none else c.pending)
    (hsent : c'.renewalsSent + (if (Cycle.mk refreshToken stage).isReady then 1 else 0) =
      c.renewalsSent + (if (Cycle.mk refreshToken old).isReady then 1 else 0)) :
    c'.SingleFlight := by
  have hlt : id < c.cycles.length := (List.getElem?_eq_some_iff.mp hid).1
  have hself : c.Unsettled id ↔ old.isUnsettled = true := by
    rw [Unsettled, hid]
    simp
  refine ⟨fun j => ?_, ?_⟩
  · rw [unsettled_set_iff hlt hcycles, hpending]
    by_cases hj : j = id
    · subst hj
      rw [if_pos rfl]
      split <;> rename_i hleaves
      · simp [hleaves.2]
      · rw [h.slot, hself]
        refine ⟨fun hold => ?_, hsettles⟩
        simpa [hold] using hleaves
    -- the others: if this one leaves the slot, none of them was in it
    · rw [if_neg hj]
      split <;> rename_i hleaves
      · refine iff_of_false (by simp) fun hunsettled => hj ?_
        have hslot := (h.slot id).mpr (hself.mpr hleaves.1)
        rw [(h.slot j).mpr hunsettled, Option.some_inj] at hslot
        exact hslot
      · exact h.slot j
  · have hready := countP_isReady_set hid ⟨refreshToken, stage⟩
    have hbefore := h.sent
    rw [hcycles, List.length_set]
    omega

theorem SingleFlight.goOn {c : Console β} (h : c.SingleFlight) (id : CycleId) {stage : CycleStage}
    (hstage : stage.isUnsettled = true) (hready : ∀ r, (Cycle.mk r stage).isReady = false) :
    (c.goOn id stage).SingleFlight := by
  by_cases hid : ∃ refreshToken, c.cycles[id]? = some ⟨refreshToken, .inFlight⟩
  · obtain ⟨refreshToken, hid⟩ := hid
    rw [goOn_of_inFlight stage hid]
    refine h.move hid rfl (fun _ => rfl) ?_ ?_
    · rw [hstage]
      rfl
    · rw [hready]
      rfl
  · rw [goOn_of_not_inFlight stage (not_exists.mp hid)]
    exact h

variable [Backend β]

theorem SingleFlight.advanceCycle {c : Console β} (h : c.SingleFlight) (now : Moment)
    (id : CycleId) : (c.advanceCycle now id).SingleFlight := by
  cases hid : c.cycles[id]? with
  | none => rw [advanceCycle_of_getElem?_none hid]; exact h
  | some cycle =>
    obtain ⟨used, stage⟩ := cycle
    rw [advanceCycle_of_getElem? hid]
    cases stage with
    | ready =>
      have hsent := renewalsSent_transmit_cycle id (Renewal.request used) c
      exact h.move hid rfl (fun _ => rfl) rfl hsent
    | inFlight => exact h.move hid rfl (fun _ => rfl) rfl rfl
    | answered tokens =>
      rw [stepCycle_answered]
      exact h.move hid rfl (fun _ => rfl) rfl rfl
    | written outcome =>
      refine h.move hid rfl (fun _ => rfl) ?_ rfl
      have hslot : c.pending = some id := (h.slot id).mpr ⟨_, hid, rfl⟩
      simp [stepCycle, hslot, CycleStage.isUnsettled]
    | released outcome => exact h.move hid rfl (fun hs => by cases hs) rfl rfl
    | settled outcome => exact h.move hid rfl (fun hs => by cases hs) rfl rfl
    | dead => exact h.move hid rfl (fun _ => rfl) rfl rfl

/-- Every step keeps single flight. -/
theorem SingleFlight.step {c : Console β} (h : c.SingleFlight) (now : Moment) (e : Event) :
    (c.step now e).SingleFlight := by
  cases e with
  | start op => exact h.congr rfl rfl rfl
  | advance caller =>
    cases ha : c.callers[caller]? with
    | none =>
      rw [Console.step, advance_of_getElem?_none ha]
      exact h
    | some a =>
      rw [Console.step, advance_of_getElem? ha]
      exact (h.touch (stepActivity_touch now caller a c)).congr rfl rfl rfl
  | answer caller result =>
    obtain ⟨callers, heq, -⟩ := exists_answer_eq caller result c
    rw [Console.step, heq]
    exact h.congr rfl rfl rfl
  | cancel caller =>
    obtain ⟨callers, heq, -⟩ := exists_cancel_eq caller c
    rw [Console.step, heq]
    exact h.congr rfl rfl rfl
  | advanceCycle id => exact h.advanceCycle now id
  | answerCycle id result => exact h.goOn id rfl fun _ => rfl
  | killCycle id => exact h.goOn id rfl fun _ => rfl

theorem SingleFlight.run {c : Console β} (h : c.SingleFlight) (t : List (Moment × Event)) :
    (c.run t).SingleFlight :=
  run_induction' (fun _ now e hd => hd.step now e) t h

theorem Reachable.singleFlight {c : Console β} (h : c.Reachable) : c.SingleFlight := by
  obtain ⟨routes, store, s, rfl⟩ := h
  exact (singleFlight_opened routes store).run s

/-! ### What runs do to a cycle -/

/-- A cycle that has settled does nothing to what is shared. -/
theorem exists_advanceCycle_of_settled {c : Console β} {id : CycleId} (h : c.Settled id)
    (now : Moment) :
    ∃ cycle, c.advanceCycle now id = { c with cycles := c.cycles.set id cycle } := by
  obtain ⟨⟨used, stage⟩, hid, hstage⟩ := h
  rw [advanceCycle_of_getElem? hid]
  cases stage with
  | released outcome => exact ⟨_, rfl⟩
  | settled outcome => exact ⟨_, rfl⟩
  | _ => cases hstage

theorem length_cycles_advanceCycle (now : Moment) (id : CycleId) (c : Console β) :
    (c.advanceCycle now id).cycles.length = c.cycles.length := by
  cases hid : c.cycles[id]? with
  | none => rw [advanceCycle_of_getElem?_none hid]
  | some cycle =>
    obtain ⟨used, stage⟩ := cycle
    rw [advanceCycle_of_getElem? hid, List.length_set]
    cases stage with
    | answered tokens => rw [stepCycle_answered]
    | _ => rfl

theorem length_cycles_le_step (now : Moment) (e : Event) (c : Console β) :
    c.cycles.length ≤ (c.step now e).cycles.length := by
  cases e with
  | start op => exact Nat.le_refl _
  | advance caller =>
    cases ha : c.callers[caller]? with
    | none => exact Nat.le_of_eq (by rw [Console.step, advance_of_getElem?_none ha])
    | some a =>
      rw [Console.step, advance_of_getElem? ha]
      exact (stepActivity_touch now caller a c).length_cycles_le
  | answer caller result =>
    obtain ⟨callers, heq, -⟩ := exists_answer_eq caller result c
    exact Nat.le_of_eq (by rw [Console.step, heq])
  | cancel caller =>
    obtain ⟨callers, heq, -⟩ := exists_cancel_eq caller c
    exact Nat.le_of_eq (by rw [Console.step, heq])
  | advanceCycle id => exact Nat.le_of_eq (length_cycles_advanceCycle now id c).symm
  | answerCycle id result => exact Nat.le_of_eq (length_cycles_goOn id _ c).symm
  | killCycle id => exact Nat.le_of_eq (length_cycles_goOn id _ c).symm

/-- No run takes a cycle out of the list. -/
theorem length_cycles_le_run (c : Console β) (s : List (Moment × Event)) :
    c.cycles.length ≤ (c.run s).cycles.length :=
  run_induction' (P := fun d => c.cycles.length ≤ d.cycles.length)
    (fun d now e h => Nat.le_trans h (length_cycles_le_step now e d)) s (Nat.le_refl _)

theorem getElem?_cycles_advanceCycle_of_ne {id j : CycleId} (hj : j ≠ id) (now : Moment)
    (c : Console β) : (c.advanceCycle now j).cycles[id]? = c.cycles[id]? := by
  cases hget : c.cycles[j]? with
  | none => rw [advanceCycle_of_getElem?_none hget]
  | some cycle =>
    obtain ⟨used, stage⟩ := cycle
    rw [advanceCycle_of_getElem? hget]
    refine (List.getElem?_set_ne hj).trans ?_
    cases stage with
    | answered tokens => rw [stepCycle_answered]
    | _ => rfl

/-- A step of a cycle takes it to its next stage. -/
theorem getElem?_cycles_advanceCycle_self {id : CycleId} {cycle : Cycle} {c : Console β}
    (hid : c.cycles[id]? = some cycle) (now : Moment) :
    (c.advanceCycle now id).cycles[id]? =
      some { cycle with stage := (c.stepCycle now id cycle).1 } := by
  have hlength := length_cycles_advanceCycle now id c
  rw [advanceCycle_of_getElem? hid, List.length_set] at hlength
  have hlt : id < (c.stepCycle now id cycle).2.cycles.length := by
    rw [hlength]
    exact (List.getElem?_eq_some_iff.mp hid).1
  rw [advanceCycle_of_getElem? hid]
  exact List.getElem?_set_self hlt

/-- The answer takes a cycle on that waits for it. -/
theorem getElem?_cycles_step_answerCycle {id : CycleId} {used : String} {c : Console β}
    (hid : c.cycles[id]? = some ⟨used, .inFlight⟩) (now : Moment)
    (answer : Except ApiError Response) :
    (c.step now (.answerCycle id answer)).cycles[id]? =
      some ⟨used, .answered (Renewal.tokens answer)⟩ := by
  rw [step, goOn_of_inFlight _ hid]
  exact List.getElem?_set_self (List.getElem?_eq_some_iff.mp hid).1

/-- An event that spares a cycle leaves it where it stands. -/
theorem getElem?_cycles_step {id : CycleId} {c : Console β} (hid : id < c.cycles.length)
    {e : Event} (he : e.spares id = true) (now : Moment) :
    (c.step now e).cycles[id]? = c.cycles[id]? := by
  cases e with
  | start op => rfl
  | advance caller =>
    cases ha : c.callers[caller]? with
    | none => rw [step, advance_of_getElem?_none ha]
    | some a =>
      rw [step, advance_of_getElem? ha]
      exact (stepActivity_touch now caller a c).getElem?_cycles hid
  | answer caller result =>
    obtain ⟨callers, heq, -⟩ := exists_answer_eq caller result c
    rw [step, heq]
  | cancel caller =>
    obtain ⟨callers, heq, -⟩ := exists_cancel_eq caller c
    rw [step, heq]
  | advanceCycle j => exact getElem?_cycles_advanceCycle_of_ne (bne_iff_ne.mp he) now c
  | answerCycle j result => exact getElem?_cycles_goOn_of_ne (bne_iff_ne.mp he) _ c
  | killCycle j => exact getElem?_cycles_goOn_of_ne (bne_iff_ne.mp he) _ c

/-- A cycle that does not wait for its answer is moved by its own steps only. -/
theorem getElem?_cycles_step_of_ne {id : CycleId} {cycle : Cycle} {c : Console β}
    (hid : c.cycles[id]? = some cycle) (hstage : cycle.stage ≠ .inFlight) {e : Event}
    (he : e ≠ .advanceCycle id) (now : Moment) : (c.step now e).cycles[id]? = some cycle := by
  cases hspares : e.spares id with
  | true => exact (getElem?_cycles_step (List.getElem?_eq_some_iff.mp hid).1 hspares now).trans hid
  | false =>
    have hstays : ∀ next, c.goOn id next = c := fun next =>
      goOn_of_not_inFlight next fun used hinFlight => by
        rw [hid, Option.some_inj] at hinFlight
        exact hstage (congrArg Cycle.stage hinFlight)
    cases e with
    | advanceCycle j =>
      obtain rfl : j = id := by simpa [Event.spares] using hspares
      exact absurd rfl he
    | answerCycle j result =>
      obtain rfl : j = id := by simpa [Event.spares] using hspares
      rw [step, hstays, hid]
    | killCycle j =>
      obtain rfl : j = id := by simpa [Event.spares] using hspares
      rw [step, hstays, hid]
    | _ => cases hspares

/-- A cycle does not fill the slot again. -/
theorem Settled.step {id : CycleId} {c : Console β} (h : c.Settled id) (now : Moment) (e : Event) :
    (c.step now e).Settled id := by
  obtain ⟨⟨used, stage⟩, hid, hstage⟩ := h
  by_cases he : e = .advanceCycle id
  · subst he
    refine ⟨_, getElem?_cycles_advanceCycle_self hid now, ?_⟩
    cases stage with
    | released outcome => rfl
    | settled outcome => rfl
    | _ => cases hstage
  · have hmoved : stage ≠ .inFlight := by rintro rfl; cases hstage
    exact ⟨_, getElem?_cycles_step_of_ne hid hmoved he now, hstage⟩

/-- How a cycle has come to stand where it stands after an event. -/
inductive MovedCycle (now : Moment) (e : Event) (id : CycleId) (c : Console β) : Cycle → Prop
  | fresh (refreshToken : String) : MovedCycle now e id c { refreshToken := refreshToken }
  | stayed {cycle : Cycle} (hid : c.cycles[id]? = some cycle) : MovedCycle now e id c cycle
  | stepped {cycle : Cycle} (hid : c.cycles[id]? = some cycle) (he : e = .advanceCycle id) :
      MovedCycle now e id c { cycle with stage := (c.stepCycle now id cycle).1 }
  | answered {used : String} (result : Except ApiError Response)
      (hid : c.cycles[id]? = some ⟨used, .inFlight⟩) (he : e = .answerCycle id result) :
      MovedCycle now e id c ⟨used, .answered (Renewal.tokens result)⟩
  | killed {used : String} (hid : c.cycles[id]? = some ⟨used, .inFlight⟩)
      (he : e = .killCycle id) : MovedCycle now e id c ⟨used, .dead⟩

/-- A cycle that was not there before an event is about to send its renewal. -/
theorem exists_eq_of_not_lt_length {now : Moment} {e : Event} {id : CycleId} {cycle : Cycle}
    {c : Console β} (hnew : ¬ id < c.cycles.length)
    (hid : (c.step now e).cycles[id]? = some cycle) :
    ∃ refreshToken, cycle = { refreshToken := refreshToken } := by
  have hlt : id < (c.step now e).cycles.length := (List.getElem?_eq_some_iff.mp hid).1
  cases e with
  | start op => exact absurd hlt hnew
  | advance caller =>
    -- only a step of a caller starts a cycle
    cases ha : c.callers[caller]? with
    | none =>
      rw [step, advance_of_getElem?_none ha] at hlt
      exact absurd hlt hnew
    | some a =>
      have htouch := stepActivity_touch now caller a c
      rw [step, advance_of_getElem? ha] at hid hlt
      generalize (c.stepActivity now caller a).2 = c' at htouch hid hlt
      cases htouch with
      | started refreshToken hslot hrefresh =>
        rw [List.getElem?_append_right (Nat.le_of_not_lt hnew)] at hid
        exact ⟨refreshToken, List.mem_singleton.mp (List.mem_of_getElem? hid)⟩
      | _ => exact absurd hlt hnew
  | answer caller result =>
    obtain ⟨callers, heq, -⟩ := exists_answer_eq caller result c
    rw [step, heq] at hlt
    exact absurd hlt hnew
  | cancel caller =>
    obtain ⟨callers, heq, -⟩ := exists_cancel_eq caller c
    rw [step, heq] at hlt
    exact absurd hlt hnew
  | advanceCycle j => exact absurd (length_cycles_advanceCycle now j c ▸ hlt) hnew
  | answerCycle j result => exact absurd (length_cycles_goOn j _ c ▸ hlt) hnew
  | killCycle j => exact absurd (length_cycles_goOn j _ c ▸ hlt) hnew

/-- **Cycles.** A cycle that stands somewhere after an event was there before and has gone on, or
has just been started. -/
theorem movedCycle_of_getElem? {now : Moment} {e : Event} {id : CycleId} {cycle : Cycle}
    {c : Console β} (hid : (c.step now e).cycles[id]? = some cycle) :
    MovedCycle now e id c cycle := by
  by_cases hlt : id < c.cycles.length
  case neg =>
    obtain ⟨refreshToken, rfl⟩ := exists_eq_of_not_lt_length hlt hid
    exact .fresh refreshToken
  cases hspares : e.spares id with
  | true => exact .stayed ((getElem?_cycles_step hlt hspares now).symm.trans hid)
  | false =>
    cases e with
    | advanceCycle j =>
      obtain rfl : j = id := by simpa [Event.spares] using hspares
      have hbefore : c.cycles[j]? = some c.cycles[j] := List.getElem?_eq_getElem hlt
      rw [step, getElem?_cycles_advanceCycle_self hbefore, Option.some_inj] at hid
      exact hid ▸ .stepped hbefore rfl
    | answerCycle j result =>
      obtain rfl : j = id := by simpa [Event.spares] using hspares
      rcases getElem?_cycles_goOn_self hid with hbefore | ⟨used, hinFlight, rfl⟩
      · exact .stayed hbefore
      · exact .answered result hinFlight rfl
    | killCycle j =>
      obtain rfl : j = id := by simpa [Event.spares] using hspares
      rcases getElem?_cycles_goOn_self hid with hbefore | ⟨used, hinFlight, rfl⟩
      · exact .stayed hbefore
      · exact .killed hinFlight rfl
    | _ => cases hspares

/-- Events that spare a cycle leave it where it stands. -/
theorem getElem?_cycles_run {id : CycleId} {cycle : Cycle} {c : Console β}
    (hid : c.cycles[id]? = some cycle) {t : List (Moment × Event)}
    (ht : ∀ x ∈ t, x.2.spares id = true) : (c.run t).cycles[id]? = some cycle := by
  induction t generalizing c with
  | nil => exact hid
  | cons x rest ih =>
    obtain ⟨now, e⟩ := x
    have hlt := (List.getElem?_eq_some_iff.mp hid).1
    have hstep := getElem?_cycles_step hlt (ht _ List.mem_cons_self) now
    exact ih (hstep.trans hid) fun y hy => ht y (List.mem_cons_of_mem _ hy)

/-- A cycle whose end is told stays where it is. -/
theorem getElem?_cycles_step_of_told {id : CycleId} {cycle : Cycle} {outcome : RenewalOutcome}
    {c : Console β} (hid : c.cycles[id]? = some cycle) (htold : cycle.outcome? = some outcome)
    (now : Moment) (e : Event) : (c.step now e).cycles[id]? = some cycle := by
  obtain ⟨used, stage⟩ := cycle
  by_cases he : e = .advanceCycle id
  · subst he
    have hrests : stage.rests = true := by
      cases stage with
      | settled o => rfl
      | dead => rfl
      | _ => cases htold
    rw [step, advanceCycle_of_rests now hid hrests, hid]
  · have hmoved : stage ≠ .inFlight := by rintro rfl; cases htold
    exact getElem?_cycles_step_of_ne hid hmoved he now

/-- What is told of a cycle is not taken back. -/
theorem outcome?_step {id : CycleId} {outcome : RenewalOutcome} {c : Console β}
    (h : c.outcome? id = some outcome) (now : Moment) (e : Event) :
    (c.step now e).outcome? id = some outcome := by
  rw [outcome?, Option.bind_eq_some_iff] at h ⊢
  obtain ⟨cycle, hid, htold⟩ := h
  exact ⟨cycle, getElem?_cycles_step_of_told hid htold now e, htold⟩

/-- Callers that go away change nothing but the list of callers. -/
theorem exists_run_cancels_eq (c : Console β) {t : List (Moment × Event)}
    (ht : ∀ x ∈ t, x.2.isCancel = true) : ∃ callers, c.run t = { c with callers := callers } := by
  induction t generalizing c with
  | nil => exact ⟨c.callers, rfl⟩
  | cons x rest ih =>
    obtain ⟨now, e⟩ := x
    cases e with
    | cancel caller =>
      obtain ⟨callers, heq, -⟩ := exists_cancel_eq caller c
      rw [run, step, heq]
      exact ih _ fun y hy => ht y (List.mem_cons_of_mem _ hy)
    | _ => cases ht _ List.mem_cons_self

/-! ### Settling -/

/-- Everybody who is about to look for a cycle finds this one, and waits for it after one step that
changes nothing else. -/
def JoinedByAll (c : Console β) (id : CycleId) : Prop :=
  (∀ sent, c.joinOrStart sent = (.pending id, c)) ∧
    (∀ now caller goal request scope response,
      c.callers[caller]? = some (.exchange goal (.joining request scope response)) →
      c.advance now caller =
        { c with
          callers := c.callers.set caller (.exchange goal (.waiting request scope response id)) }) ∧
    ∀ now caller sent, c.callers[caller]? = some (.joining sent) →
      c.advance now caller = { c with callers := c.callers.set caller (.waiting id) }

/-- **Settlement.** A cycle that waits for its answer writes the store, empties the slot and tells
its outcome once it is answered, whatever anybody else does before, in between and after. -/
def Settles (c : Console β) (id : CycleId) (used : String) : Prop :=
  ∀ (result : Except ApiError Response) (t₀ t₁ t₂ t₃ : List (Moment × Event))
    (m₀ m₁ m₂ m₃ : Moment), (∀ t ∈ [t₀, t₁, t₂, t₃], ∀ x ∈ t, x.2.spares id = true) →
    let before := ((c.run t₀).step m₀ (.answerCycle id result)).run t₁
    let written := before.step m₁ (.advanceCycle id)
    let emptied := (written.run t₂).step m₂ (.advanceCycle id)
    let told := (emptied.run t₃).step m₃ (.advanceCycle id)
    let settled := before.store.settle m₁ used (Renewal.tokens result)
    written.store = settled.2 ∧ (written.run t₂).pending = some id ∧ emptied.pending = none ∧
      told.outcome? id = some settled.1

theorem joinedByAll {c : Console β} {id : CycleId} (h : c.pending = some id) :
    c.JoinedByAll id := by
  have hjoin : ∀ sent, c.joinOrStart sent = (.pending id, c) := fun _ => joinOrStart_of_pending h
  refine ⟨hjoin, fun now caller goal request scope response ha => ?_, fun now caller sent ha => ?_⟩
  · rw [advance_of_getElem? ha]
    simp only [stepActivity, stepExchange, hjoin]
  · rw [advance_of_getElem? ha]
    simp only [stepActivity, hjoin]

theorem SingleFlight.settles {c : Console β} (h : c.SingleFlight) {id : CycleId} {used : String}
    (hid : c.cycles[id]? = some ⟨used, .inFlight⟩) : c.Settles id used := by
  intro result t₀ t₁ t₂ t₃ m₀ m₁ m₂ m₃ hspares before written emptied told settled
  -- where the cycle stands after each of its own steps, and after what comes between them
  have hid₀ := getElem?_cycles_run hid (hspares t₀ (by simp))
  have hanswered := getElem?_cycles_step_answerCycle hid₀ m₀ result
  have hbefore : before.cycles[id]? = some ⟨used, .answered (Renewal.tokens result)⟩ :=
    getElem?_cycles_run hanswered (hspares t₁ (by simp))
  have hwritten := advanceCycle_answered m₁ hbefore
  have hid₁ : written.cycles[id]? = some ⟨used, .written settled.1⟩ := by
    have hnext := getElem?_cycles_advanceCycle_self hbefore m₁
    rwa [stepCycle_answered] at hnext
  have hid₂ := getElem?_cycles_run hid₁ (hspares t₂ (by simp))
  have hflight : (written.run t₂).SingleFlight :=
    ((((h.run t₀).step m₀ _).run t₁).step m₁ _).run t₂
  have hslot : (written.run t₂).pending = some id := (hflight.slot id).mpr ⟨_, hid₂, rfl⟩
  have hemptied := advanceCycle_written m₂ hid₂ hslot
  have hid₃ : emptied.cycles[id]? = some ⟨used, .released settled.1⟩ :=
    getElem?_cycles_advanceCycle_self hid₂ m₂
  have hid₄ := getElem?_cycles_run hid₃ (hspares t₃ (by simp))
  have htold : told.cycles[id]? = some ⟨used, .settled settled.1⟩ :=
    getElem?_cycles_advanceCycle_self hid₄ m₃
  refine ⟨congrArg Console.store hwritten, hslot, congrArg Console.pending hemptied, ?_⟩
  rw [outcome?, htold]
  rfl

/-- **Single flight.** In every state of every run at most one cycle has not settled, the slot holds
exactly that one, everybody who needs a renewal joins it, and no more renewals were sent than cycles
started. Whatever happens next, the cycle stays in the slot until it settles; callers that go away
change neither slot nor cycles nor store; and the cycle settles with all of them gone as it would
have with all of them waiting. -/
theorem single_flight (routes : RouteTable) (store : Store β) (s : List (Moment × Event)) :
    let c := (opened routes store).run s
    (∀ i j, c.Unsettled i → c.Unsettled j → i = j) ∧
      (∀ i, c.pending = some i ↔ c.Unsettled i) ∧
      (∀ i, c.Unsettled i → c.JoinedByAll i) ∧
      c.renewalsSent ≤ c.cyclesStarted ∧
      (∀ i t, c.Unsettled i → (c.run t).pending = some i ∨ (c.run t).Settled i) ∧
      (∀ t, (∀ x ∈ t, x.2.isCancel = true) →
        (c.run t).pending = c.pending ∧ (c.run t).cycles = c.cycles ∧
          (c.run t).store = c.store) ∧
      (∀ i used t now, c.cycles[i]? = some ⟨used, .ready⟩ → (∀ x ∈ t, x.2.spares i = true) →
        ((c.run t).step now (.advanceCycle i)).Settles i used) ∧
      ∀ i used, c.cycles[i]? = some ⟨used, .inFlight⟩ → c.Settles i used := by
  intro c
  have hflight : c.SingleFlight := (singleFlight_opened routes store).run s
  refine ⟨fun i j hi hj => ?_, hflight.slot, fun i hi => joinedByAll ((hflight.slot i).mpr hi),
    ?_, fun i t hi => ?_, fun t ht => ?_, fun i used t now hid ht => ?_,
    fun i used hid => hflight.settles hid⟩
  · have hslot := (hflight.slot i).mpr hi
    rw [(hflight.slot j).mpr hj, Option.some_inj] at hslot
    exact hslot.symm
  · have hsent := hflight.sent
    rw [cyclesStarted]
    omega
  · have hlt := Nat.lt_of_lt_of_le hi.lt_length (length_cycles_le_run c t)
    exact (settled_or_unsettled hlt).imp_left ((hflight.run t).slot i).mpr
  · obtain ⟨callers, heq⟩ := exists_run_cancels_eq c ht
    rw [heq]
    exact ⟨rfl, rfl, rfl⟩
  · have hready := getElem?_cycles_run hid ht
    have hlt := (List.getElem?_eq_some_iff.mp hready).1
    refine ((hflight.run t).step now _).settles ?_
    rw [Console.step, advanceCycle_ready now hready]
    exact List.getElem?_set_self hlt

/-- A caller asks for a renewal and goes away while the cycle waits for its answer. -/
theorem single_flight_cancelled :
    let store := Store.inMemory ⟨some "A1", some "R1"⟩
    let now : Moment := default
    let c := (opened ⟨[]⟩ store).run
      [(now, .start .refresh), (now, .advance 0), (now, .advance 0), (now, .advanceCycle 0)]
    let answered := (c.run [(now, .cancel 0)]).step now (.answerCycle 0 (.ok Renewal.grant))
    c.JoinedByAll 0 ∧ (c.run [(now, .cancel 0)]).pending = some 0 ∧
      (answered.step now (.advanceCycle 0)).store.session = ⟨some "A2", some "R1"⟩ := by
  intro store now c answered
  obtain ⟨-, -, hjoined, -, -, hcancels, -, hsettles⟩ := single_flight ⟨[]⟩ store
    [(now, .start .refresh), (now, .advance 0), (now, .advance 0), (now, .advanceCycle 0)]
  have hid : c.cycles[0]? = some ⟨"R1", .inFlight⟩ := rfl
  refine ⟨hjoined 0 ⟨_, hid, rfl⟩, (hcancels [(now, .cancel 0)] (by simp [Event.isCancel])).1, ?_⟩
  have hwritten := (hsettles 0 "R1" hid (.ok Renewal.grant) [(now, .cancel 0)] [] [] [] now now now
    now (by simp [Event.spares])).1
  refine (congrArg Store.session hwritten).trans ?_
  rw [Renewal.tokens_grant]
  decide +kernel

end Console

end AdminConsole
