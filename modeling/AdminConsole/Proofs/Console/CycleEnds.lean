import AdminConsole.Proofs.Console.SingleFlight
import AdminConsole.Proofs.Console.Stretch
import AdminConsole.Proofs.Route.Standard

/-!
# How cycles end

A cycle that comes to an end of its own has left the slot by the time its outcome is told, so that
the next rejected request starts another one. A cycle that is cut short while it waits for its
answer tells those who wait that it was aborted, but nobody empties the slot: `ended_cycle_gone_iff`
says that a cycle whose outcome is told is gone exactly if it was not cut short, that one which was
cut short is joined by everybody from then on, and that a rejected request starts a cycle of its own
whenever it finds the slot empty.
-/

namespace AdminConsole

open AdminConsole.Time

namespace Console

variable {β : Type} {c c' : Console β} {id : CycleId}

/-! ### Cycles that were cut short -/

/-- The cycle was cut short. -/
def Aborted (c : Console β) (id : CycleId) : Prop :=
  ∃ refreshToken, c.cycles[id]? = some ⟨refreshToken, .dead⟩

theorem Aborted.unsettled (h : c.Aborted id) : c.Unsettled id := by
  obtain ⟨refreshToken, hid⟩ := h
  exact ⟨_, hid, rfl⟩

theorem Aborted.outcome?_eq (h : c.Aborted id) :
    c.outcome? id = some (.error (.aborted "")) := by
  obtain ⟨refreshToken, hid⟩ := h
  rw [outcome?, hid]
  rfl

theorem lt_length_of_outcome? {outcome : RenewalOutcome} (h : c.outcome? id = some outcome) :
    id < c.cycles.length := by
  rw [outcome?, Option.bind_eq_some_iff] at h
  obtain ⟨cycle, hid, -⟩ := h
  exact (List.getElem?_eq_some_iff.mp hid).1

/-- A cycle whose outcome is told has left the slot, or was cut short. -/
theorem settled_or_aborted {outcome : RenewalOutcome} (h : c.outcome? id = some outcome) :
    c.Settled id ∨ c.Aborted id := by
  rw [outcome?, Option.bind_eq_some_iff] at h
  obtain ⟨⟨refreshToken, stage⟩, hid, hstage⟩ := h
  cases stage with
  | settled o => exact Or.inl ⟨_, hid, rfl⟩
  | dead => exact Or.inr ⟨refreshToken, hid⟩
  | _ => cases hstage

theorem Settled.not_unsettled (h : c.Settled id) : ¬ c.Unsettled id := by
  rintro ⟨cycle, hid, hstage⟩
  obtain ⟨settled, hsettled, hdone⟩ := h
  rw [hid, Option.some_inj] at hsettled
  subst hsettled
  rw [hstage] at hdone
  cases hdone

/-- Nothing is heard of a cycle that was cut short, so the slot is never emptied. -/
theorem SingleFlight.gone_iff (h : c.SingleFlight) {outcome : RenewalOutcome}
    (houtcome : c.outcome? id = some outcome) : c.pending ≠ some id ↔ ¬ c.Aborted id := by
  rw [ne_eq, h.slot id, not_iff_not]
  refine ⟨fun hunsettled => ?_, Aborted.unsettled⟩
  exact (settled_or_aborted houtcome).resolve_left fun hsettled =>
    hsettled.not_unsettled hunsettled

variable [Backend β]

/-- A cycle that was cut short stays where it is. -/
theorem Aborted.step (h : c.Aborted id) (now : Moment) (e : Event) :
    (c.step now e).Aborted id := by
  obtain ⟨refreshToken, hid⟩ := h
  exact ⟨refreshToken, getElem?_cycles_step_of_told hid rfl now e⟩

theorem Aborted.run (h : c.Aborted id) (t : List (Moment × Event)) : (c.run t).Aborted id :=
  run_induction' (P := fun d => d.Aborted id) (fun _ now e hd => hd.step now e) t h

/-! ### Cycles that are started -/

/-- The caller starts a cycle with a refresh token and waits for it. The cycle sends its renewal in
its first step, whatever comes before that. -/
structure StartsCycle (caller : Nat) (refreshToken : String) (c c' : Console β) : Prop where
  cycles : c'.cycles = c.cycles ++ [{ refreshToken := refreshToken }]
  slot : c'.pending = some c.cycles.length
  waits : ∃ goal request scope response, c'.callers[caller]? =
    some (.exchange goal (.waiting request scope response c.cycles.length))
  sends : ∀ (t : List (Moment × Event)) (now : Moment),
    (∀ x ∈ t, x.2.spares c.cycles.length = true) →
    ((c'.run t).advanceCycle now c.cycles.length).log =
      ⟨.cycle c.cycles.length, Renewal.request refreshToken⟩ :: (c'.run t).log

section Rejected

variable {caller : Nat} {goal : Goal} {request : Request} {response : Response}

/-- What becomes of the first rejection of a request that was sent in the session as it is now. -/
theorem advance_of_rejected
    (hcaller : c.callers[caller]? = some (.exchange goal (.failed request .primary response)))
    (hstatus : response.status.code = 401) (hunsent : request.retried = false)
    (haccess : c.store.session.access = request.bearer)
    (hrefresh : c.store.session.refresh.isSome = true) (now : Moment) :
    c.advance now caller = { c with
      callers := c.callers.set caller (.exchange goal
        (if request.route = Endpoint.renewal then
          .clearing request (ApiError.ofResponse response).said
        else .joining request .primary response)) } := by
  have hkept : replacement? c.store.session.access request.bearer = none :=
    replacement?_eq_none_iff.mpr (Or.inr haccess)
  rw [advance_of_getElem? hcaller, stepActivity_exchange now caller goal c (by simp), stepExchange]
  by_cases hroute : request.route = Endpoint.renewal
  · simp only [FailureContext.decide_of_route_eq hroute hstatus, Exchange.decided, if_pos hroute]
  · have hdecide := FailureContext.decide_of_isRecoverable ⟨hunsent, hroute⟩ hstatus
      c.store.session.access c.store.session.refresh
    simp only [hkept, hrefresh, if_true] at hdecide
    simp only [hdecide, Exchange.decided, if_neg hroute]

/-- Who looks for a cycle while there is none starts one. -/
theorem startsCycle_advance {refreshToken : String}
    (hcaller : c.callers[caller]? = some (.exchange goal (.joining request .primary response)))
    (hslot : c.pending = none) (haccess : c.store.session.access = request.bearer)
    (hrefresh : c.store.session.refresh = some refreshToken) (now : Moment) :
    StartsCycle caller refreshToken c (c.advance now caller) := by
  have hlt : caller < c.callers.length := (List.getElem?_eq_some_iff.mp hcaller).1
  have hkept : replacement? c.store.session.access request.bearer = none :=
    replacement?_eq_none_iff.mpr (Or.inr haccess)
  have hadvance : c.advance now caller = { c with
      pending := some c.cycles.length
      cycles := c.cycles ++ [{ refreshToken := refreshToken }]
      callers := c.callers.set caller
        (.exchange goal (.waiting request .primary response c.cycles.length)) } := by
    rw [advance_of_getElem? hcaller, stepActivity_exchange now caller goal c (by simp),
      stepExchange, joinOrStart_start hslot hkept hrefresh]
  have hready : (c.advance now caller).cycles[c.cycles.length]? =
      some ⟨refreshToken, .ready⟩ := by
    rw [hadvance]
    exact List.getElem?_concat_length
  refine ⟨by rw [hadvance], by rw [hadvance], ⟨goal, request, .primary, response, ?_⟩,
    fun t m hspares => ?_⟩
  · rw [hadvance]
    exact List.getElem?_set_self hlt
  -- the new cycle is ready until its own first step, whatever the others do by then
  · rw [advanceCycle_ready m (getElem?_cycles_run hready hspares)]
    rfl

/-- **Ends of cycles.** A cycle whose outcome is told is out of the slot exactly if it was not cut
short. One that was cut short stays in the slot in every run, and whoever needs a renewal joins it
and hears that it was aborted. A later rejection of a request that was sent in the session as it is,
and not to where sessions are renewed, starts another cycle if it finds the slot empty. -/
theorem ended_cycle_gone_iff (hreachable : c.Reachable) {outcome : RenewalOutcome}
    (houtcome : c.outcome? id = some outcome) :
    (c.pending ≠ some id ↔ ¬ c.Aborted id) ∧
      (c.Aborted id → ∀ t, (c.run t).JoinedByAll id ∧
        (c.run t).outcome? id = some (.error (.aborted ""))) ∧
      ∀ (caller : Nat) (goal : Goal) (request : Request) (response : Response) (m₀ : Moment),
        c.callers[caller]? = some (.exchange goal (.failed request .primary response)) →
        response.status.code = 401 → request.retried = false →
        c.store.session.access = request.bearer → c.store.session.refresh.isSome = true →
        c.advance m₀ caller = { c with
            callers := c.callers.set caller (.exchange goal
              (if request.route = Endpoint.renewal then
                .clearing request (ApiError.ofResponse response).said
              else .joining request .primary response)) } ∧
          (request.route ≠ Endpoint.renewal →
            ∀ (t : List (Moment × Event)) (m₁ : Moment) (refreshToken : String),
              (∀ x ∈ t, x.2.sparesCaller caller = true) →
              let c₁ := (c.advance m₀ caller).run t
              c₁.pending = none → c₁.store.session.access = request.bearer →
              c₁.store.session.refresh = some refreshToken →
              id < c₁.cycles.length ∧
                StartsCycle caller refreshToken c₁ (c₁.advance m₁ caller)) := by
  have hflight := hreachable.singleFlight
  refine ⟨hflight.gone_iff houtcome, fun haborted t => ?_,
    fun caller goal request response m₀ hcaller hstatus hunsent haccess hrefresh => ?_⟩
  · have hstill := haborted.run t
    exact ⟨joinedByAll (((hflight.run t).slot id).mpr hstill.unsettled), hstill.outcome?_eq⟩
  -- between its look and its search for a cycle the caller stays where it is
  · have hlooked := advance_of_rejected hcaller hstatus hunsent haccess hrefresh m₀
    refine ⟨hlooked, fun hroute t m₁ refreshToken hspares => ?_⟩
    intro c₁ hslot haccess₁ hrefresh₁
    have hsame : c.cycles = (c.advance m₀ caller).cycles := by rw [hlooked]
    have hcycles : c.cycles.length ≤ c₁.cycles.length :=
      Nat.le_trans (Nat.le_of_eq (congrArg List.length hsame)) (length_cycles_le_run _ t)
    have hjoining : (c.advance m₀ caller).callers[caller]? =
        some (.exchange goal (.joining request .primary response)) := by
      rw [hlooked, if_neg hroute]
      exact List.getElem?_set_self (List.getElem?_eq_some_iff.mp hcaller).1
    have hstill : c₁.callers[caller]? =
        some (.exchange goal (.joining request .primary response)) :=
      getElem?_callers_run hjoining hspares
    exact ⟨Nat.lt_of_lt_of_le (lt_length_of_outcome? houtcome) hcycles,
      startsCycle_advance hstill hslot haccess₁ hrefresh₁ m₁⟩

end Rejected

/-- Somebody asks for a renewal, which comes to the end that `e` makes of it, and then a request is
rejected that was sent in the session as it is by then. -/
def rejectedAfter (e : Event) : Console MemoryBackend :=
  signedIn.stretchRun <| List.map (default, ·)
    [ .start .refresh, .advance 0, .advanceCycle 0, e, .advanceCycle 0, .advance 0,
      .start (.send .listing), .advance 1, .answer 1 (.ok .expired) ]

theorem rejectedAfter_reachable (e : Event) : (rejectedAfter e).Reachable :=
  reachable_stretchRun ⟨_, _, [], rfl⟩ _

/-- The request that was rejected. -/
def rejectedListing (token : String) : Request :=
  Request.listing.withAuthorization (HeaderValue.bearerScheme ++ token)

/-- A session that has been renewed is renewed once more. -/
theorem next_cycle_starts :
    let c := rejectedAfter (.answerCycle 0 (.ok Renewal.grant))
    c.outcome? 0 = some (.ok "A2") ∧ c.pending ≠ some 0 ∧
      StartsCycle 1 "R1" (c.advance default 1) ((c.advance default 1).advance default 1) := by
  intro c
  have hstate : c.outcome? 0 = some (.ok "A2") ∧ c.pending = none ∧
      c.store.session = ⟨some "A2", some "R1"⟩ ∧ c.callers[1]? = some
        (.exchange .response (.failed (rejectedListing "A2") .primary .expired)) := by
    simp only [c, rejectedAfter, signedIn, RouteTable.standard_eq]
    exact ⟨rfl, rfl, rfl, rfl⟩
  obtain ⟨houtcome, hslot, hsession, hcaller⟩ := hstate
  obtain ⟨hgone, -, hlater⟩ := ended_cycle_gone_iff (rejectedAfter_reachable _) houtcome
  have haccess : c.store.session.access = some "A2" := congrArg TokenPair.access hsession
  have hrefresh : c.store.session.refresh = some "R1" := congrArg TokenPair.refresh hsession
  have hbearer : (rejectedListing "A2").bearer = some "A2" := by decide
  obtain ⟨hlooked, hstarts⟩ := hlater 1 .response (rejectedListing "A2") .expired default hcaller
    rfl rfl (haccess.trans hbearer.symm) (Option.isSome_of_eq_some hrefresh)
  refine ⟨houtcome, by simp [hslot], (hstarts (by decide) [] default "R1" (by simp) ?_ ?_ ?_).2⟩
  · rw [run, hlooked]
    exact hslot
  · rw [run, hlooked]
    exact haccess.trans hbearer.symm
  · rw [run, hlooked]
    exact hrefresh

/-- After a renewal that was cut short the session is not renewed any more: the slot still holds
the cycle, so the rejected request waits for what is over and clears the session. -/
theorem aborted_cycle_joined :
    let c := rejectedAfter (.killCycle 0)
    let d := c.stretch default 1
    c.Reachable ∧ c.outcome? 0 = some (.error (.aborted "")) ∧
      c.callers[0]? = some (.finished (.renewed (.error (.aborted "")))) ∧
      c.pending = some 0 ∧ c.store.session = ⟨some "A1", some "R1"⟩ ∧
      c.callers[1]? = some
        (.exchange .response (.failed (rejectedListing "A1") .primary .expired)) ∧
      d.cyclesStarted = 1 ∧ d.renewalsSent = 1 ∧ d.store.session = {} := by
  refine ⟨rejectedAfter_reachable _, ?_⟩
  simp only [rejectedAfter, signedIn, RouteTable.standard_eq]
  exact ⟨rfl, rfl, rfl, rfl, rfl, rfl, rfl, rfl⟩

end Console

end AdminConsole
