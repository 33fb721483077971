import AdminConsole.Backend.Memory
import AdminConsole.Proofs.Console.Steps
import AdminConsole.Proofs.Recovery

/-!
# Runs of a console

A run is any sequence of events, so what holds in every state of every run is proved from what one
step can do. `Touch` lists what a step of a caller can make of what is shared, and says when it
starts a cycle; `frame_step` says that an event that is no step changes nothing but where callers
and cycles stand. `run_induction` turns a property that every admitted step keeps into one of all
runs of admitted events.
-/

namespace AdminConsole

open AdminConsole.Time

/-- What a cycle makes of the store once its renewal is answered, and what it has to tell. -/
def Store.settle {β : Type} [Backend β] (now : Moment) (used : String)
    (tokens : Except RenewalFailure RenewedTokens) (s : Store β) : RenewalOutcome × Store β :=
  match tokens with
  | .ok t =>
    (if (s.renew now used t.access t.refresh).1 then .ok t.access else .error .superseded,
      (s.renew now used t.access t.refresh).2)
  | .error e => (.error e, (s.clearIf now used).2)

namespace Store

/-- The session that a cycle leaves where its refresh token is still held. -/
def settled (tokens : Except RenewalFailure RenewedTokens) (session : TokenPair) : TokenPair :=
  match tokens with
  | .ok t => renewed t.access t.refresh session
  | .error _ => {}

variable {β : Type} {s : Store β} {used : String}

theorem holds_iff : s.holds used = true ↔ s.session.refresh = some used := by
  rw [holds, beq_iff_eq, session]

variable [Backend β]

/-- A cycle leaves a session alone that does not hold its refresh token any more. -/
theorem settle_of_not_holds (h : s.session.refresh ≠ some used) (now : Moment)
    (tokens : Except RenewalFailure RenewedTokens) : (s.settle now used tokens).2 = s := by
  have hholds : s.holds used = false := Bool.eq_false_iff.mpr fun hholds => h (holds_iff.mp hholds)
  cases tokens with
  | ok t => simp only [settle, renew, hholds, Bool.false_eq_true, if_false]
  | error e => simp only [settle, clearIf, hholds, Bool.false_eq_true, if_false]

/-- What a cycle leaves in place of the session that holds its refresh token. -/
theorem session_settle_of_holds (h : s.session.refresh = some used) (now : Moment)
    (tokens : Except RenewalFailure RenewedTokens) :
    (s.settle now used tokens).2.session = settled tokens s.session := by
  have hholds : s.holds used = true := holds_iff.mpr h
  cases tokens with
  | ok t =>
    simp only [settle, renew, hholds, if_true]
    rfl
  | error e =>
    simp only [settle, clearIf, hholds, if_true]
    rfl

/-- What a cycle has to tell whose refresh token the session holds. -/
theorem outcome_settle_of_holds (h : s.session.refresh = some used) (now : Moment)
    (tokens : Except RenewalFailure RenewedTokens) :
    (s.settle now used tokens).1 = tokens.map RenewedTokens.access := by
  have hholds : s.holds used = true := holds_iff.mpr h
  cases tokens with
  | ok t =>
    simp only [settle, renew, hholds, if_true]
    rfl
  | error e => rfl

end Store

/-- A store in memory that holds a session and nothing else. -/
def Store.inMemory (session : TokenPair) : Store MemoryBackend :=
  { stored := { session := session }, backend := ⟨none⟩ }

/-- An answer to a renewal, of status 200, that brings an access token and no refresh token. -/
def Renewal.grant : Response :=
  { status := default, body := "\x7b\"tokens\":\x7b\"access\":\"A2\"\x7d\x7d" }

/-- An answer that says that the access token has expired. -/
def Response.expired : Response := { status := .unauthorized, body := "expired" }

/-- A request of the session's own scope. -/
def Request.listing : Request := { method := .get, path := "/api/v1/docker/services" }

theorem Renewal.tokens_grant : Renewal.tokens (.ok Renewal.grant) = .ok ⟨"A2", none⟩ :=
  rfl

/-- The stages from which a cycle does not go on by itself. -/
def CycleStage.rests : CycleStage → Bool
  | .inFlight | .settled _ | .dead => true
  | .ready | .answered _ | .written _ | .released _ => false

/-- Somebody takes a step in the event, a caller or a cycle. -/
def Event.isStep : Event → Bool
  | .advance _ | .advanceCycle _ => true
  | .start _ | .answer _ _ | .cancel _ | .answerCycle _ _ | .killCycle _ => false

/-- The event is no matter of this caller. -/
def Event.sparesCaller (caller : Nat) : Event → Bool
  | .advance k | .answer k _ | .cancel k => k != caller
  | .start _ | .advanceCycle _ | .answerCycle _ _ | .killCycle _ => true

namespace Console

variable {β : Type}

/-- A console that has just been opened over a store. -/
def opened (routes : RouteTable) (store : Store β) : Console β :=
  { routes := routes, store := store }

/-- A console with a session in memory. -/
def signedIn : Console MemoryBackend :=
  opened .standard (.inMemory ⟨some "A1", some "R1"⟩)

/-- A console with a session in memory that guards every path. -/
def guarded : Console MemoryBackend :=
  opened ⟨[]⟩ (.inMemory ⟨some "A1", some "R1"⟩)

/-- The console can come to stand as it does. -/
def Reachable [Backend β] (c : Console β) : Prop :=
  ∃ routes store s, c = (opened routes store : Console β).run s

/-! ### What a caller has sent -/

/-- The requests that a caller has sent, first one first. -/
def sentBy (c : Console β) (caller : Nat) : List Request :=
  (c.log.reverse.filter fun t => t.sender = .caller caller).map Transmission.request

@[simp]
theorem sentBy_transmit_self (caller : Nat) (request : Request) (c : Console β) :
    (c.transmit (.caller caller) request).sentBy caller = c.sentBy caller ++ [request] := by
  simp [sentBy, transmit]

theorem sentBy_transmit_of_ne {sender : Sender} {caller : Nat} (h : sender ≠ .caller caller)
    (request : Request) (c : Console β) :
    (c.transmit sender request).sentBy caller = c.sentBy caller := by
  simp [sentBy, transmit, h]

/-- Who has not come yet has sent nothing. -/
def Unsent (c : Console β) : Prop := ∀ k, c.callers.length ≤ k → c.sentBy k = []

/-! ### Looking for a cycle -/

section Joining

variable {c : Console β} {sent : Option String}

theorem joinOrStart_of_pending {id : CycleId} (h : c.pending = some id) :
    c.joinOrStart sent = (.pending id, c) := by
  simp only [joinOrStart, h]

theorem joinOrStart_of_replaced {token : String} (h : c.pending = none)
    (ht : replacement? c.store.session.access sent = some token) :
    c.joinOrStart sent = (.ready (.ok token), c) := by
  simp only [joinOrStart, h, ht]

theorem joinOrStart_of_no_refresh (h : c.pending = none)
    (ht : replacement? c.store.session.access sent = none)
    (hr : c.store.session.refresh = none) :
    c.joinOrStart sent = (.ready (.error (.rejected .unauthorized)), c) := by
  simp only [joinOrStart, h, ht, hr]

theorem joinOrStart_start {refreshToken : String} (h : c.pending = none)
    (ht : replacement? c.store.session.access sent = none)
    (hr : c.store.session.refresh = some refreshToken) :
    c.joinOrStart sent =
      (.pending c.cycles.length,
        { c with
          pending := some c.cycles.length
          cycles := c.cycles ++ [{ refreshToken := refreshToken }] }) := by
  simp only [joinOrStart, h, ht, hr]

end Joining

/-- Looking for a cycle touches nothing but the slot and the cycles. -/
theorem exists_joinOrStart_eq (sent : Option String) (c : Console β) :
    ∃ pending cycles,
      (c.joinOrStart sent).2 = { c with pending := pending, cycles := cycles } := by
  unfold joinOrStart
  dsimp only
  split
  · exact ⟨c.pending, c.cycles, rfl⟩
  · split
    · exact ⟨c.pending, c.cycles, rfl⟩
    · split
      · exact ⟨c.pending, c.cycles, rfl⟩
      · exact ⟨_, _, rfl⟩

/-- Looking for a cycle does not look at the list of callers. -/
theorem joinOrStart_withCallers (sent : Option String) (callers : List Activity) (c : Console β) :
    ({ c with callers := callers }).joinOrStart sent =
      ((c.joinOrStart sent).1, { (c.joinOrStart sent).2 with callers := callers }) := by
  unfold joinOrStart
  dsimp only
  split
  · rfl
  · split
    · rfl
    · split <;> rfl

/-! ### What a step of a caller touches -/

/-- What a step of a caller may do to what is shared. -/
inductive Touch (caller : Nat) (c : Console β) : Console β → Prop
  | nothing : Touch caller c c
  | sent (request : Request) : Touch caller c (c.transmit (.caller caller) request)
  | started (refreshToken : String) (hslot : c.pending = none)
      (hrefresh : c.store.session.refresh = some refreshToken) :
      Touch caller c
        { c with
          pending := some c.cycles.length
          cycles := c.cycles ++ [{ refreshToken := refreshToken }] }
  | wrote (store : Store β) : Touch caller c { c with store := store }
  | turned (redirector : Redirector) : Touch caller c { c with redirector := redirector }

theorem joinOrStart_touch (caller : Nat) (sent : Option String) (c : Console β) :
    Touch caller c (c.joinOrStart sent).2 := by
  cases hp : c.pending with
  | some id => rw [joinOrStart_of_pending hp]; exact .nothing
  | none =>
    cases ht : replacement? c.store.session.access sent with
    | some token => rw [joinOrStart_of_replaced hp ht]; exact .nothing
    | none =>
      cases hr : c.store.session.refresh with
      | none => rw [joinOrStart_of_no_refresh hp ht hr]; exact .nothing
      | some refreshToken => rw [joinOrStart_start hp ht hr]; exact .started _ hp hr

/-! ### What the other events touch -/

/-- An answer to a caller is a matter of that caller alone. -/
theorem exists_answer_eq (caller : Nat) (result : Except ApiError Response) (c : Console β) :
    ∃ callers, c.answer caller result = { c with callers := callers } ∧
      callers.length = c.callers.length := by
  unfold answer
  split
  · exact ⟨_, rfl, List.length_set⟩
  · exact ⟨c.callers, rfl, rfl⟩

/-- A caller is answered otherwise than it hoped. -/
theorem answer_of_failure {caller : Nat} {goal : Goal} {request : Request} {scope : Scope}
    {response : Response} {c : Console β}
    (hcaller : c.callers[caller]? = some (.exchange goal (.inFlight request scope)))
    (hfailure : response.status.isSuccess = false) :
    c.answer caller (.ok response) = { c with
      callers := c.callers.set caller (.exchange goal (.failed request scope response)) } := by
  simp only [answer, hcaller, Exchange.answer, hfailure, Bool.false_eq_true, if_false]

/-- A caller that goes away takes nothing with it. -/
theorem exists_cancel_eq (caller : Nat) (c : Console β) :
    ∃ callers, c.cancel caller = { c with callers := callers } ∧
      callers.length = c.callers.length := by
  unfold cancel
  split
  · exact ⟨c.callers, rfl, rfl⟩
  · exact ⟨c.callers, rfl, rfl⟩
  · exact ⟨_, rfl, List.length_set⟩

theorem goOn_of_inFlight {id : CycleId} {refreshToken : String} {c : Console β}
    (stage : CycleStage) (h : c.cycles[id]? = some ⟨refreshToken, .inFlight⟩) :
    c.goOn id stage = { c with cycles := c.cycles.set id ⟨refreshToken, stage⟩ } := by
  simp only [goOn, h]

theorem goOn_of_not_inFlight {id : CycleId} {c : Console β} (stage : CycleStage)
    (h : ∀ refreshToken, c.cycles[id]? ≠ some ⟨refreshToken, .inFlight⟩) :
    c.goOn id stage = c := by
  unfold goOn
  split
  · rename_i refreshToken heq
    exact absurd heq (h refreshToken)
  · rfl

/-- A cycle that goes on from its answer is a matter of that cycle alone. -/
theorem exists_goOn_eq (id : CycleId) (stage : CycleStage) (c : Console β) :
    ∃ cycles, c.goOn id stage = { c with cycles := cycles } ∧
      cycles.length = c.cycles.length := by
  unfold goOn
  split
  · exact ⟨_, rfl, List.length_set⟩
  · exact ⟨c.cycles, rfl, rfl⟩

theorem callers_goOn (id : CycleId) (stage : CycleStage) (c : Console β) :
    (c.goOn id stage).callers = c.callers := by
  obtain ⟨cycles, heq, -⟩ := exists_goOn_eq id stage c
  rw [heq]

/-- **Frame.** Where nobody takes a step, nothing changes but where callers and cycles stand. -/
theorem frame_step [Backend β] {α : Type} {c : Console β} (f : Console β → α)
    (hf : ∀ callers cycles, f { c with callers := callers, cycles := cycles } = f c) {e : Event}
    (he : e.isStep = false) (now : Moment) : f (c.step now e) = f c := by
  cases e with
  | start op => exact hf _ c.cycles
  | advance caller => cases he
  | answer caller result =>
    obtain ⟨callers, heq, -⟩ := exists_answer_eq caller result c
    exact (congrArg f heq).trans (hf callers c.cycles)
  | cancel caller =>
    obtain ⟨callers, heq, -⟩ := exists_cancel_eq caller c
    exact (congrArg f heq).trans (hf callers c.cycles)
  | advanceCycle id => cases he
  | answerCycle id result =>
    obtain ⟨cycles, heq, -⟩ := exists_goOn_eq id (.answered (Renewal.tokens result)) c
    exact (congrArg f heq).trans (hf c.callers cycles)
  | killCycle id =>
    obtain ⟨cycles, heq, -⟩ := exists_goOn_eq id .dead c
    exact (congrArg f heq).trans (hf c.callers cycles)

theorem Unsent.goOn {c : Console β} (h : c.Unsent) (id : CycleId) (stage : CycleStage) :
    (c.goOn id stage).Unsent := by
  obtain ⟨cycles, heq, -⟩ := exists_goOn_eq id stage c
  rw [heq]
  exact h

/-! ### Steps of callers and of cycles -/

variable [Backend β]

theorem stepActivity_touch (now : Moment) (caller : Nat) (a : Activity) (c : Console β) :
    Touch caller c (c.stepActivity now caller a).2 := by
  rw [stepActivity_snd]
  cases a.effect with
  | nothing => exact .nothing
  | sends request => exact .sent request
  | joins sent => exact joinOrStart_touch caller sent c
  | writes w => exact .wrote _
  | arms => exact .turned _
  | marks request generation => exact .turned _
  | navigates => exact .turned _

theorem callers_stepActivity (now : Moment) (caller : Nat) (a : Activity) (c : Console β) :
    (c.stepActivity now caller a).2.callers = c.callers := by
  have htouch := stepActivity_touch now caller a c
  generalize (c.stepActivity now caller a).2 = c' at htouch
  cases htouch <;> rfl

/-- A caller's step, seen from the list of callers. -/
theorem advance_of_getElem? {now : Moment} {caller : Nat} {a : Activity} {c : Console β}
    (h : c.callers[caller]? = some a) :
    c.advance now caller =
      { (c.stepActivity now caller a).2 with
        callers := (c.stepActivity now caller a).2.callers.set caller
          (c.stepActivity now caller a).1 } := by
  simp only [advance, h]

theorem advance_of_getElem?_none {now : Moment} {caller : Nat} {c : Console β}
    (h : c.callers[caller]? = none) : c.advance now caller = c := by
  simp only [advance, h]

/-- A step of a cycle, seen from the list of cycles. -/
theorem advanceCycle_of_getElem? {now : Moment} {id : CycleId} {cycle : Cycle} {c : Console β}
    (h : c.cycles[id]? = some cycle) :
    c.advanceCycle now id =
      { (c.stepCycle now id cycle).2 with
        cycles := (c.stepCycle now id cycle).2.cycles.set id
          { cycle with stage := (c.stepCycle now id cycle).1 } } := by
  simp only [advanceCycle, h]

theorem advanceCycle_of_getElem?_none {now : Moment} {id : CycleId} {c : Console β}
    (h : c.cycles[id]? = none) : c.advanceCycle now id = c := by
  simp only [advanceCycle, h]

/-- The steps of a cycle are no matter of the callers. -/
theorem advanceCycle_frame (now : Moment) (id : CycleId) (c : Console β) :
    (c.advanceCycle now id).routes = c.routes ∧
      (c.advanceCycle now id).redirector = c.redirector ∧
      (c.advanceCycle now id).callers = c.callers := by
  cases hid : c.cycles[id]? with
  | none =>
    rw [advanceCycle_of_getElem?_none hid]
    exact ⟨rfl, rfl, rfl⟩
  | some cycle =>
    obtain ⟨used, stage⟩ := cycle
    rw [advanceCycle_of_getElem? hid]
    cases stage with
    | answered tokens => cases tokens <;> exact ⟨rfl, rfl, rfl⟩
    | _ => exact ⟨rfl, rfl, rfl⟩

theorem sentBy_advanceCycle (now : Moment) (id : CycleId) (k : Nat) (c : Console β) :
    (c.advanceCycle now id).sentBy k = c.sentBy k := by
  cases hid : c.cycles[id]? with
  | none => rw [advanceCycle_of_getElem?_none hid]
  | some cycle =>
    obtain ⟨used, stage⟩ := cycle
    rw [advanceCycle_of_getElem? hid]
    cases stage with
    | ready => exact sentBy_transmit_of_ne (by simp) (Renewal.request used) c
    | answered tokens => cases tokens <;> rfl
    | _ => rfl

/-- No event changes the table of routes. -/
theorem routes_step (now : Moment) (e : Event) (c : Console β) :
    (c.step now e).routes = c.routes := by
  cases e with
  | advance caller =>
    cases ha : c.callers[caller]? with
    | none => rw [step, advance_of_getElem?_none ha]
    | some a =>
      have htouch := stepActivity_touch now caller a c
      rw [step, advance_of_getElem? ha]
      generalize (c.stepActivity now caller a).2 = c' at htouch
      cases htouch <;> rfl
  | advanceCycle id => exact (advanceCycle_frame now id c).1
  | _ => exact frame_step Console.routes (fun _ _ => rfl) rfl now

/-! ### Where callers stand -/

/-- Where a caller stands after a step of its own. -/
theorem getElem?_callers_advance_self {now : Moment} {caller : Nat} {a : Activity} {c : Console β}
    (h : c.callers[caller]? = some a) :
    (c.advance now caller).callers[caller]? = some (c.stepActivity now caller a).1 := by
  rw [advance_of_getElem? h, callers_stepActivity]
  exact List.getElem?_set_self (List.getElem?_eq_some_iff.mp h).1

theorem getElem?_callers_advance_of_ne {caller k : Nat} (hk : k ≠ caller) (now : Moment)
    (c : Console β) : (c.advance now k).callers[caller]? = c.callers[caller]? := by
  cases ha : c.callers[k]? with
  | none => rw [advance_of_getElem?_none ha]
  | some a =>
    rw [advance_of_getElem? ha, callers_stepActivity]
    exact List.getElem?_set_ne hk

/-- An event that spares a caller leaves it where it stands. -/
theorem getElem?_callers_step {caller : Nat} {c : Console β} (hlt : caller < c.callers.length)
    {e : Event} (he : e.sparesCaller caller = true) (now : Moment) :
    (c.step now e).callers[caller]? = c.callers[caller]? := by
  cases e with
  | start op => exact List.getElem?_append_left hlt
  | advance k => exact getElem?_callers_advance_of_ne (bne_iff_ne.mp he) now c
  | answer k result =>
    rw [step, answer]
    split
    · exact List.getElem?_set_ne (bne_iff_ne.mp he)
    · rfl
  | cancel k =>
    rw [step, cancel]
    split
    · rfl
    · rfl
    · exact List.getElem?_set_ne (bne_iff_ne.mp he)
  | advanceCycle id => rw [step, (advanceCycle_frame now id c).2.2]
  | answerCycle id result => rw [step, callers_goOn]
  | killCycle id => rw [step, callers_goOn]

/-- Events that spare a caller leave it where it stands. -/
theorem getElem?_callers_run {caller : Nat} {a : Activity} {c : Console β}
    (ha : c.callers[caller]? = some a) {t : List (Moment × Event)}
    (ht : ∀ x ∈ t, x.2.sparesCaller caller = true) : (c.run t).callers[caller]? = some a := by
  induction t generalizing c with
  | nil => exact ha
  | cons x rest ih =>
    obtain ⟨now, e⟩ := x
    have hlt := (List.getElem?_eq_some_iff.mp ha).1
    have hstep := getElem?_callers_step hlt (ht _ List.mem_cons_self) now
    exact ih (hstep.trans ha) fun y hy => ht y (List.mem_cons_of_mem _ hy)

/-! ### The steps of a cycle -/

/-- What a cycle does once its renewal is answered. -/
theorem stepCycle_answered (now : Moment) (id : CycleId) (used : String)
    (tokens : Except RenewalFailure RenewedTokens) (c : Console β) :
    c.stepCycle now id ⟨used, .answered tokens⟩ =
      (.written (c.store.settle now used tokens).1,
        { c with store := (c.store.settle now used tokens).2 }) := by
  cases tokens <;> rfl

section Cycle

variable (now : Moment) {id : CycleId} {used : String} {c : Console β}

theorem advanceCycle_ready (h : c.cycles[id]? = some ⟨used, .ready⟩) :
    c.advanceCycle now id =
      { c.transmit (.cycle id) (Renewal.request used) with
        cycles := c.cycles.set id ⟨used, .inFlight⟩ } :=
  advanceCycle_of_getElem? h

/-- A cycle writes the store while it still fills the slot. -/
theorem advanceCycle_answered {tokens : Except RenewalFailure RenewedTokens}
    (h : c.cycles[id]? = some ⟨used, .answered tokens⟩) :
    c.advanceCycle now id =
      { c with
        store := (c.store.settle now used tokens).2
        cycles := c.cycles.set id ⟨used, .written (c.store.settle now used tokens).1⟩ } := by
  rw [advanceCycle_of_getElem? h, stepCycle_answered]

theorem advanceCycle_written {outcome : RenewalOutcome}
    (h : c.cycles[id]? = some ⟨used, .written outcome⟩) (hslot : c.pending = some id) :
    c.advanceCycle now id =
      { c with pending := none, cycles := c.cycles.set id ⟨used, .released outcome⟩ } := by
  rw [advanceCycle_of_getElem? h]
  simp only [stepCycle, hslot, if_true]

theorem advanceCycle_released {outcome : RenewalOutcome}
    (h : c.cycles[id]? = some ⟨used, .released outcome⟩) :
    c.advanceCycle now id = { c with cycles := c.cycles.set id ⟨used, .settled outcome⟩ } :=
  advanceCycle_of_getElem? h

/-- A cycle that waits for its answer, or is over, does nothing. -/
theorem advanceCycle_of_rests {stage : CycleStage} (h : c.cycles[id]? = some ⟨used, stage⟩)
    (hrests : stage.rests = true) : c.advanceCycle now id = c := by
  obtain ⟨hlt, hget⟩ := List.getElem?_eq_some_iff.mp h
  have hsame : c.cycles.set id ⟨used, stage⟩ = c.cycles := by
    rw [← hget, List.set_getElem_self]
  rw [advanceCycle_of_getElem? h]
  cases stage with
  | inFlight => exact congrArg (fun cycles => { c with cycles := cycles }) hsame
  | settled outcome => exact congrArg (fun cycles => { c with cycles := cycles }) hsame
  | dead => exact congrArg (fun cycles => { c with cycles := cycles }) hsame
  | _ => cases hrests

end Cycle

/-! ### Runs of admitted events -/

theorem run_append_cons (c : Console β) (s t : List (Moment × Event)) (now : Moment) (e : Event) :
    c.run (s ++ (now, e) :: t) = ((c.run s).step now e).run t := by
  rw [run_append]
  rfl

theorem run_append_singleton (c : Console β) (s : List (Moment × Event)) (now : Moment)
    (e : Event) : c.run (s ++ [(now, e)]) = (c.run s).step now e :=
  run_append_cons c s [] now e

/-- Each event of the sequence is admitted in the state in which it happens. -/
def Obeys (admits : Console β → Event → Prop) : Console β → List (Moment × Event) → Prop
  | _, [] => True
  | c, (now, e) :: rest => admits c e ∧ Obeys admits (c.step now e) rest

theorem obeys_append {admits : Console β → Event → Prop} {c : Console β}
    {s t : List (Moment × Event)} :
    Obeys admits c (s ++ t) ↔ Obeys admits c s ∧ Obeys admits (c.run s) t := by
  induction s generalizing c with
  | nil => exact ⟨fun h => ⟨trivial, h⟩, And.right⟩
  | cons x rest ih =>
    obtain ⟨now, e⟩ := x
    exact (and_congr_right fun _ => ih).trans and_assoc.symm

/-- **Invariants.** What every admitted step keeps, every run of admitted events keeps. -/
theorem run_induction {admits : Console β → Event → Prop} {P : Console β → Prop}
    (hstep : ∀ c now e, P c → admits c e → P (c.step now e)) {c : Console β}
    {s : List (Moment × Event)} (hc : P c) (hs : Obeys admits c s) : P (c.run s) := by
  induction s generalizing c with
  | nil => exact hc
  | cons x rest ih =>
    obtain ⟨now, e⟩ := x
    exact ih (hstep c now e hc hs.1) hs.2

/-- **Invariants of runs.** What every admitted step keeps, together with the events so far, every
run of admitted events keeps, together with its events. -/
theorem run_induction_past {admits : Console β → Event → Prop}
    {P : List (Moment × Event) → Console β → Prop}
    (hstep : ∀ past c now e, P past c → admits c e → P (past ++ [(now, e)]) (c.step now e))
    {past : List (Moment × Event)} {c : Console β} {s : List (Moment × Event)} (hc : P past c)
    (hs : Obeys admits c s) : P (past ++ s) (c.run s) := by
  induction s generalizing past c with
  | nil => exact (List.append_nil past).symm ▸ hc
  | cons x rest ih =>
    obtain ⟨now, e⟩ := x
    have hrest := ih (hstep past c now e hc hs.1) hs.2
    rwa [List.append_assoc] at hrest

/-- Either each event of a sequence is admitted, or there is one that is not. -/
theorem obeys_or_exists (admits : Console β → Event → Prop) (c : Console β)
    (s : List (Moment × Event)) :
    Obeys admits c s ∨
      ∃ s₁ now e s₂, s = s₁ ++ (now, e) :: s₂ ∧ ¬ admits (c.run s₁) e := by
  induction s generalizing c with
  | nil => exact Or.inl trivial
  | cons x rest ih =>
    obtain ⟨now, e⟩ := x
    by_cases he : admits c e
    · rcases ih (c.step now e) with hrest | ⟨s₁, m, e', s₂, rfl, hnot⟩
      · exact Or.inl ⟨he, hrest⟩
      · exact Or.inr ⟨(now, e) :: s₁, m, e', s₂, rfl, hnot⟩
    · exact Or.inr ⟨[], now, e, rest, rfl, he⟩

theorem Obeys.and {admits : Console β → Event → Prop} {P : Event → Prop}
    {c : Console β} {s : List (Moment × Event)} (h : Obeys admits c s) (hP : ∀ x ∈ s, P x.2) :
    Obeys (fun c e => admits c e ∧ P e) c s := by
  induction s generalizing c with
  | nil => trivial
  | cons x rest ih =>
    exact ⟨⟨h.1, hP x List.mem_cons_self⟩, ih h.2 fun y hy => hP y (List.mem_cons_of_mem _ hy)⟩

/-- What every step keeps, every run keeps. -/
theorem run_induction' {P : Console β → Prop} (hstep : ∀ c now e, P c → P (c.step now e))
    {c : Console β} (s : List (Moment × Event)) (hc : P c) : P (c.run s) := by
  induction s generalizing c with
  | nil => exact hc
  | cons x rest ih => exact ih (hstep c x.1 x.2 hc)

theorem routes_run (c : Console β) (s : List (Moment × Event)) : (c.run s).routes = c.routes :=
  run_induction' (P := fun d => d.routes = c.routes)
    (fun d now e h => (routes_step now e d).trans h) s rfl

theorem Unsent.step {c : Console β} (h : c.Unsent) (now : Moment) (e : Event) :
    (c.step now e).Unsent := by
  cases e with
  | start op =>
    intro k hk
    simp only [Console.step, List.length_append] at hk
    exact h k (Nat.le_trans (Nat.le_add_right _ _) hk)
  | advance caller =>
    cases ha : c.callers[caller]? with
    | none => rw [Console.step, advance_of_getElem?_none ha]; exact h
    | some a =>
      have hlt : caller < c.callers.length := (List.getElem?_eq_some_iff.mp ha).1
      rw [Console.step, advance_of_getElem? ha]
      have htouch := stepActivity_touch now caller a c
      generalize (c.stepActivity now caller a).2 = c' at htouch
      intro k hk
      simp only [List.length_set] at hk
      cases htouch with
      | sent request =>
        have hne : Sender.caller caller ≠ .caller k := by
          rintro ⟨⟩
          exact absurd hlt (Nat.not_lt_of_le hk)
        exact (sentBy_transmit_of_ne hne request c).trans (h k hk)
      | _ => exact h k hk
  | answer caller result =>
    obtain ⟨callers, heq, hlength⟩ := exists_answer_eq caller result c
    rw [Console.step, heq]
    exact fun k hk => h k (hlength ▸ hk)
  | cancel caller =>
    obtain ⟨callers, heq, hlength⟩ := exists_cancel_eq caller c
    rw [Console.step, heq]
    exact fun k hk => h k (hlength ▸ hk)
  | advanceCycle id =>
    obtain ⟨-, -, hcallers⟩ := advanceCycle_frame now id c
    exact fun k hk => (sentBy_advanceCycle now id k c).trans (h k (hcallers ▸ hk))
  | answerCycle id result => exact h.goOn id _
  | killCycle id => exact h.goOn id _

theorem Reachable.run {c : Console β} (h : c.Reachable) (s : List (Moment × Event)) :
    (c.run s).Reachable := by
  obtain ⟨routes, store, t, rfl⟩ := h
  exact ⟨routes, store, t ++ s, (run_append _ t s).symm⟩

theorem Reachable.unsent {c : Console β} (h : c.Reachable) : c.Unsent := by
  obtain ⟨routes, store, s, rfl⟩ := h
  exact run_induction' (fun _ now e hd => hd.step now e) s fun _ _ => rfl

end Console

end AdminConsole
