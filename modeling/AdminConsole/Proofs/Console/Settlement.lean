import AdminConsole.Proofs.Console.SingleFlight
import AdminConsole.Proofs.Console.Stretch
import AdminConsole.Proofs.Route.Standard

/-!
# What a cycle leaves behind

From the answer to its renewal on a cycle takes three steps of its own: it writes the store, it
empties the slot, and it tells those who wait. Others may do anything before, between and after
these steps, so the session that the cycle meets when it writes need not be the one that it was
started from.

Two tables say all that comes of this. `Renewal.Brings` reads the answer: it has tokens, or it has
none for one of three reasons. `Settlement` compares the session with the refresh token of the cycle:
where the session still holds it the cycle decides what becomes of the session, and otherwise the
session stays as it is. `cycle_settles` puts the two together for a whole cycle; what is neither the
session nor the slot is left alone by all three steps (`SparesRest`).
-/

namespace AdminConsole

open AdminConsole.Text AdminConsole.Time

/-! ### What an answer brings -/

/-- What an answer to a renewal brings: tokens, or the reason why there are none. A body that lacks
the access token is read with a blank one. -/
inductive Renewal.Brings :
    Except ApiError Response → Except RenewalFailure RenewedTokens → Prop
  | tokens {response : Response} {tokens : RenewedTokens}
      (hstatus : response.status.isSuccess = true)
      (hbody : RenewedTokens.ofBody? response.body = some tokens)
      (haccess : isBlank tokens.access = false) : Brings (.ok response) (.ok tokens)
  | rejected {response : Response} (hstatus : response.status.isSuccess = false) :
      Brings (.ok response) (.error (.rejected response.status))
  | unreadable {response : Response} (hstatus : response.status.isSuccess = true)
      (hbody : RenewedTokens.ofBody? response.body = none) :
      Brings (.ok response) (.error .missingToken)
  | blank {response : Response} {tokens : RenewedTokens}
      (hstatus : response.status.isSuccess = true)
      (hbody : RenewedTokens.ofBody? response.body = some tokens)
      (haccess : isBlank tokens.access = true) : Brings (.ok response) (.error .missingToken)
  | unanswered (e : ApiError) : Brings (.error e) (.error (.network e.message))

/-- Every answer brings something. -/
theorem Renewal.brings_tokens (answer : Except ApiError Response) :
    Renewal.Brings answer (Renewal.tokens answer) := by
  cases answer with
  | error e => exact .unanswered e
  | ok response =>
    cases hstatus : response.status.isSuccess with
    | false =>
      simp only [Renewal.tokens, hstatus, Bool.false_eq_true, not_false_eq_true, if_true]
      exact .rejected hstatus
    | true =>
      simp only [Renewal.tokens, hstatus, not_true_eq_false, if_false]
      cases hbody : RenewedTokens.ofBody? response.body with
      | none => exact .unreadable hstatus hbody
      | some tokens =>
        cases haccess : isBlank tokens.access with
        | true =>
          simp only [haccess, if_true]
          exact .blank hstatus hbody haccess
        | false =>
          simp only [haccess, Bool.false_eq_true, if_false]
          exact .tokens hstatus hbody haccess

/-- An answer brings one thing only. -/
theorem Renewal.Brings.tokens_eq {answer : Except ApiError Response}
    {brought : Except RenewalFailure RenewedTokens} (h : Renewal.Brings answer brought) :
    Renewal.tokens answer = brought := by
  cases h with
  | tokens hstatus hbody haccess => simp [Renewal.tokens, hstatus, hbody, haccess]
  | rejected hstatus => simp [Renewal.tokens, hstatus]
  | unreadable hstatus hbody => simp [Renewal.tokens, hstatus, hbody]
  | blank hstatus hbody haccess => simp [Renewal.tokens, hstatus, hbody, haccess]
  | unanswered e => rfl

/-- Tokens that are brought have an access token. -/
theorem Renewal.Brings.isBlank_access {answer : Except ApiError Response} {tokens : RenewedTokens}
    (h : Renewal.Brings answer (.ok tokens)) : isBlank tokens.access = false := by
  cases h with
  | tokens hstatus hbody haccess => exact haccess

/-! ### What becomes of the session -/

/-- What a cycle with the refresh token `used` makes of the session that it meets, and what it has
to tell, given what its renewal has brought. -/
inductive Settlement (used : String) (session : TokenPair) :
    Except RenewalFailure RenewedTokens → TokenPair → RenewalOutcome → Prop
  | installed {tokens : RenewedTokens} (hheld : session.refresh = some used) :
      Settlement used session (.ok tokens)
        ⟨some tokens.access, some ((tokens.refresh.bind nonBlank?).getD used)⟩ (.ok tokens.access)
  | superseded {tokens : RenewedTokens} (hother : session.refresh ≠ some used) :
      Settlement used session (.ok tokens) session (.error .superseded)
  | cleared {failure : RenewalFailure} (hheld : session.refresh = some used) :
      Settlement used session (.error failure) {} (.error failure)
  | spared {failure : RenewalFailure} (hother : session.refresh ≠ some used) :
      Settlement used session (.error failure) session (.error failure)

/-- Tokens that come too late are told to be so. -/
theorem Settlement.eq_superseded {used : String} {session after : TokenPair}
    {tokens : RenewedTokens} {outcome : RenewalOutcome}
    (h : Settlement used session (.ok tokens) after outcome)
    (hother : session.refresh ≠ some used) : outcome = .error .superseded := by
  cases h with
  | installed hheld => exact absurd hheld hother
  | superseded => rfl

namespace Store

variable {β : Type} [Backend β] {s : Store β} {used : String}

theorem outcome_settle_of_not_holds (h : s.session.refresh ≠ some used) (now : Moment)
    (tokens : RenewedTokens) : (s.settle now used (.ok tokens)).1 = .error .superseded := by
  have hholds : s.holds used = false := Bool.eq_false_iff.mpr fun hholds => h (holds_iff.mp hholds)
  simp only [settle, renew, hholds, Bool.false_eq_true, if_false]

/-- The session after a renewal with an access token that is none of blanks only. -/
theorem renewed_of_holds {session : TokenPair} (h : session.refresh = some used) {access : String}
    (haccess : isBlank access = false) (refresh : Option String) :
    renewed access refresh session =
      ⟨some access, some ((refresh.bind nonBlank?).getD used)⟩ := by
  have hnonblank : nonBlank? access = some access := nonBlank?_eq_some_iff.mpr ⟨rfl, haccess⟩
  rw [renewed, hnonblank, h]
  cases refresh.bind nonBlank? <;> rfl

/-- **The write of a cycle**, read off what its renewal has brought and the session that it
meets. -/
theorem settlement_settle {answer : Except ApiError Response}
    {brought : Except RenewalFailure RenewedTokens} (hanswer : Renewal.Brings answer brought)
    (now : Moment) (used : String) (s : Store β) :
    Settlement used s.session brought (s.settle now used brought).2.session
      (s.settle now used brought).1 := by
  by_cases hheld : s.session.refresh = some used
  · rw [session_settle_of_holds hheld, outcome_settle_of_holds hheld]
    cases brought with
    | ok tokens =>
      rw [settled, renewed_of_holds hheld hanswer.isBlank_access]
      exact .installed hheld
    | error failure => exact .cleared hheld
  · rw [settle_of_not_holds hheld]
    cases brought with
    | ok tokens =>
      rw [outcome_settle_of_not_holds hheld]
      exact .superseded hheld
    | error failure => exact .spared hheld

/-- The write of a cycle is none to the tunnel tokens and none to the peer. -/
theorem settle_frame (now : Moment) (used : String)
    (brought : Except RenewalFailure RenewedTokens) (s : Store β) :
    (s.settle now used brought).2.stored.tunnelToken = s.stored.tunnelToken ∧
      (s.settle now used brought).2.stored.tunnelServerToken = s.stored.tunnelServerToken ∧
      (s.settle now used brought).2.peer = s.peer := by
  cases brought with
  | ok tokens =>
    simp only [settle, renew]
    split <;> exact ⟨rfl, rfl, rfl⟩
  | error failure =>
    simp only [settle, clearIf]
    split <;> exact ⟨rfl, rfl, rfl⟩

end Store

namespace Console

variable {β : Type}

/-! ### What becomes of the slot -/

section Slot

variable [Backend β] {c : Console β} {id : CycleId}

/-- A cycle that has left the slot does not come back, for what is put there is a new one. -/
theorem pending_ne_step (hid : id < c.cycles.length) (hslot : c.pending ≠ some id) (now : Moment)
    (e : Event) : (c.step now e).pending ≠ some id := by
  cases e with
  | advance caller =>
    cases ha : c.callers[caller]? with
    | none =>
      rw [step, advance_of_getElem?_none ha]
      exact hslot
    | some a =>
      rw [step, advance_of_getElem? ha]
      have htouch := stepActivity_touch now caller a c
      generalize (c.stepActivity now caller a).2 = c' at htouch
      cases htouch with
      | started refreshToken hempty hrefresh =>
        intro heq
        have hsame : c.cycles.length = id := Option.some.inj heq
        exact absurd hsame (Nat.ne_of_gt hid)
      | _ => exact hslot
  | advanceCycle j =>
    cases hj : c.cycles[j]? with
    | none =>
      rw [step, advanceCycle_of_getElem?_none hj]
      exact hslot
    | some cycle =>
      obtain ⟨used, stage⟩ := cycle
      rw [step, advanceCycle_of_getElem? hj]
      cases stage with
      | answered tokens => cases tokens <;> exact hslot
      | written outcome =>
        show (if c.pending = some j then none else c.pending) ≠ some id
        split
        · exact (Option.some_ne_none id).symm
        · exact hslot
      | _ => exact hslot
  | _ =>
    rw [frame_step Console.pending (fun _ _ => rfl) rfl now]
    exact hslot

theorem pending_ne_run (hid : id < c.cycles.length) (hslot : c.pending ≠ some id)
    (s : List (Moment × Event)) : (c.run s).pending ≠ some id := by
  have hboth : id < (c.run s).cycles.length ∧ (c.run s).pending ≠ some id := by
    refine run_induction' (P := fun d => id < d.cycles.length ∧ d.pending ≠ some id)
      (fun d now e hd => ?_) s ⟨hid, hslot⟩
    have hlength := length_cycles_le_step now e d
    have hgone := pending_ne_step hd.1 hd.2 now e
    exact ⟨Nat.lt_of_lt_of_le hd.1 hlength, hgone⟩
  exact hboth.2

/-- A cycle that has written the store leaves the slot. -/
theorem pending_ne_advanceCycle {used : String} {outcome : RenewalOutcome}
    (hid : c.cycles[id]? = some ⟨used, .written outcome⟩) (now : Moment) :
    (c.advanceCycle now id).pending ≠ some id := by
  rw [advanceCycle_of_getElem? hid]
  show (if c.pending = some id then none else c.pending) ≠ some id
  split
  · exact (Option.some_ne_none id).symm
  · assumption

end Slot

/-! ### A whole cycle -/

/-- The tunnel tokens, the peer and the redirector are what they were. -/
structure SparesRest (before after : Console β) : Prop where
  tunnelToken : after.store.stored.tunnelToken = before.store.stored.tunnelToken
  tunnelServerToken : after.store.stored.tunnelServerToken = before.store.stored.tunnelServerToken
  peer : after.store.peer = before.store.peer
  redirector : after.redirector = before.redirector

variable [Backend β] {c : Console β} {id : CycleId} {used : String}

/-- Steps of a cycle are about the session and the slot. -/
theorem sparesRest_advanceCycle (now : Moment) (id : CycleId) (c : Console β) :
    SparesRest c (c.advanceCycle now id) := by
  have hredirector := (advanceCycle_frame now id c).2.1
  cases hid : c.cycles[id]? with
  | none =>
    rw [advanceCycle_of_getElem?_none hid]
    exact ⟨rfl, rfl, rfl, rfl⟩
  | some cycle =>
    obtain ⟨used, stage⟩ := cycle
    cases stage with
    | answered tokens =>
      obtain ⟨htunnel, hserver, hpeer⟩ := c.store.settle_frame now used tokens
      rw [advanceCycle_answered now hid]
      exact ⟨htunnel, hserver, hpeer, rfl⟩
    | _ =>
      rw [advanceCycle_of_getElem? hid]
      exact ⟨rfl, rfl, rfl, rfl⟩

/-- **Settlement.** A cycle with the refresh token `used` waits for the answer to its renewal, and
the answer comes. Whatever others do before and between the three steps that the cycle then takes,
it makes of the session that it meets what the two tables say; if the session does not hold its
refresh token any more, nothing at all is written. After its second step the cycle has left the slot
for good, after its third one it tells the outcome, and none of its steps touches anything else. -/
theorem cycle_settles (hcycle : c.cycles[id]? = some ⟨used, .inFlight⟩)
    {answer : Except ApiError Response} {brought : Except RenewalFailure RenewedTokens}
    (hanswer : Renewal.Brings answer brought) {s t u : List (Moment × Event)}
    (hs : ∀ x ∈ s, x.2.spares id = true) (ht : ∀ x ∈ t, x.2.spares id = true)
    (hu : ∀ x ∈ u, x.2.spares id = true) (v : List (Moment × Event)) (m₀ m₁ m₂ m₃ : Moment) :
    let met := (c.step m₀ (.answerCycle id answer)).run s
    let written := met.advanceCycle m₁ id
    let released := (written.run t).advanceCycle m₂ id
    let ended := (released.run u).advanceCycle m₃ id
    ∃ outcome,
      Settlement used met.store.session brought written.store.session outcome ∧
      (met.store.session.refresh ≠ some used → written.store = met.store) ∧
      released.store = (written.run t).store ∧ ended.store = (released.run u).store ∧
      (released.pending ≠ some id ∧ (ended.run v).pending ≠ some id) ∧
      ended.outcome? id = some outcome ∧
      SparesRest met written ∧ SparesRest (written.run t) released ∧
      SparesRest (released.run u) ended := by
  intro met written released ended
  -- where the cycle stands in front of each of its three steps
  have hmet : met.cycles[id]? = some ⟨used, .answered brought⟩ := by
    rw [← hanswer.tokens_eq]
    exact getElem?_cycles_run (getElem?_cycles_step_answerCycle hcycle m₀ answer) hs
  have hwritten : written.cycles[id]? =
      some ⟨used, .written (met.store.settle m₁ used brought).1⟩ := by
    have hnext := getElem?_cycles_advanceCycle_self hmet m₁
    rwa [stepCycle_answered] at hnext
  have hwrote := getElem?_cycles_run hwritten ht
  have hreleased : released.cycles[id]? =
      some ⟨used, .released (met.store.settle m₁ used brought).1⟩ :=
    getElem?_cycles_advanceCycle_self hwrote m₂
  have hleft := getElem?_cycles_run hreleased hu
  have hended : ended.cycles[id]? =
      some ⟨used, .settled (met.store.settle m₁ used brought).1⟩ :=
    getElem?_cycles_advanceCycle_self hleft m₃
  have hstore : written.store = (met.store.settle m₁ used brought).2 :=
    congrArg Console.store (advanceCycle_answered m₁ hmet)
  have hgone : released.pending ≠ some id := pending_ne_advanceCycle hwrote m₂
  refine ⟨(met.store.settle m₁ used brought).1, ?_, ?_, ?_, ?_, ⟨hgone, ?_⟩, ?_,
    sparesRest_advanceCycle m₁ id met, sparesRest_advanceCycle m₂ id _,
    sparesRest_advanceCycle m₃ id _⟩
  · rw [hstore]
    exact Store.settlement_settle hanswer m₁ used met.store
  · intro hother
    rw [hstore, Store.settle_of_not_holds hother m₁ brought]
  · exact (congrArg Console.store (advanceCycle_of_getElem? hwrote)).trans rfl
  · exact (congrArg Console.store (advanceCycle_released m₃ hleft)).trans rfl
  · -- the rest of the run, from the second step on, is one in which the slot is not regained
    have hlength := (List.getElem?_eq_some_iff.mp hreleased).1
    have hrest := pending_ne_run hlength hgone (u ++ (m₃, .advanceCycle id) :: v)
    rwa [run_append_cons] at hrest
  · rw [outcome?, hended]
    rfl

/-- Somebody signs in while the renewal is under way. The answer brings tokens, but they come too
late: the newer session is kept, and those who wait hear that the session has changed. -/
theorem cycle_settles_replaced :
    let c := signedIn.stretchRun <| List.map (default, ·)
      [.start .refresh, .advance 0, .advanceCycle 0]
    let signIn := List.map (default, ·)
      [.start (.write (.setSession ⟨some "B1", some "R9"⟩)), .advance 1]
    let met := (c.step default (.answerCycle 0 (.ok Renewal.grant))).run signIn
    let ended := ((met.advanceCycle default 0).advanceCycle default 0).advanceCycle default 0
    ended.outcome? 0 = some (.error .superseded) ∧
      ended.store.session = ⟨some "B1", some "R9"⟩ ∧ ended.pending ≠ some 0 := by
  intro c signIn met ended
  have hcycle : c.cycles[0]? = some ⟨"R1", .inFlight⟩ := by
    simp only [c, signedIn, RouteTable.standard_eq]
    rfl
  have hmet : met.store.session = ⟨some "B1", some "R9"⟩ := by
    simp only [met, c, signedIn, RouteTable.standard_eq]
    rfl
  have hanswer : Renewal.Brings (.ok Renewal.grant) (.ok ⟨"A2", none⟩) := .tokens rfl rfl rfl
  obtain ⟨outcome, hsettled, hnothing, hreleased, hended, ⟨-, hgone⟩, htold, -⟩ :=
    cycle_settles hcycle hanswer (s := signIn) (t := []) (u := []) (by decide) (by decide)
      (by decide) [] default default default default
  have hother : met.store.session.refresh ≠ some "R1" := by
    rw [hmet]
    decide
  have hkept : ended.store = met.store := hended.trans (hreleased.trans (hnothing hother))
  exact ⟨htold.trans (congrArg some (hsettled.eq_superseded hother)), by rw [hkept, hmet], hgone⟩

end Console

end AdminConsole
