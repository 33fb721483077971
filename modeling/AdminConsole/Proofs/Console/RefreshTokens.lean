import AdminConsole.Proofs.Console.SingleFlight

/-!
# Refresh tokens are presented once

A server that rotates refresh tokens takes each of them once, and may end a session whose token it
sees twice. A console presents no token twice (`presented_once`), provided that no token comes back:
each renewal that succeeds brings one that the session never held, and so does whoever writes a
refresh token into the session.

The tokens that were presented are those of the cycles that have left their first stage
(`Presents`), so it is enough that no two cycles were started with one token. That rests on the
order within a cycle: by the time the slot is empty the store has been written, and the session does
not hold the token of the cycle any more (`OneUse.spent`).
-/

namespace AdminConsole

open AdminConsole.Text AdminConsole.Time

/-! ### Presenting a token -/

/-- The refresh token in the body of a renewal. -/
def Request.presented? (r : Request) : Option String :=
  r.body.bind fun body => (body.member? "refresh_token").bind Json.string?

/-- The stages of a cycle that has written the store. -/
def CycleStage.hasWritten : CycleStage → Bool
  | .written _ | .released _ | .settled _ => true
  | .ready | .inFlight | .answered _ | .dead => false

theorem CycleStage.hasWritten_of_settled {stage : CycleStage} (h : stage.isUnsettled = false) :
    stage.hasWritten = true := by
  cases stage with
  | released _ => rfl
  | settled _ => rfl
  | _ => cases h

/-- The refresh token that a cycle has presented, once it has. -/
def Cycle.presented? (c : Cycle) : Option String :=
  if c.isReady then none else some c.refreshToken

namespace Console

variable {β : Type} {c c' : Console β} {held : List String}

/-- The refresh tokens that were presented by cycles, last one first. -/
def presented (c : Console β) : List String :=
  (c.log.filter Transmission.isRenewal).filterMap fun t => t.request.presented?

theorem presented_transmit_caller (caller : Nat) (request : Request) (c : Console β) :
    (c.transmit (.caller caller) request).presented = c.presented :=
  rfl

theorem presented_transmit_cycle (id : CycleId) (refreshToken : String) (c : Console β) :
    (c.transmit (.cycle id) (Renewal.request refreshToken)).presented =
      refreshToken :: c.presented :=
  rfl

/-- The tokens that were presented are those of the cycles that have left their first stage. -/
def Presents (c : Console β) : Prop :=
  c.presented.Perm (c.cycles.filterMap Cycle.presented?)

/-- What the cycles have presented after one of them went on. -/
theorem exists_presented_set_perm {cycles : List Cycle} {id : CycleId} {cycle : Cycle}
    (h : cycles[id]? = some cycle) : ∃ others,
      (cycles.filterMap Cycle.presented?).Perm (cycle.presented?.toList ++ others) ∧
        ∀ next : Cycle, ((cycles.set id next).filterMap Cycle.presented?).Perm
          (next.presented?.toList ++ others) := by
  obtain ⟨hlt, rfl⟩ := List.getElem?_eq_some_iff.mp h
  let others := (cycles.take id).filterMap Cycle.presented? ++
    (cycles.drop (id + 1)).filterMap Cycle.presented?
  have hset : ∀ next : Cycle, ((cycles.set id next).filterMap Cycle.presented?).Perm
      (next.presented?.toList ++ others) := by
    intro next
    rw [List.set_eq_take_append_cons_drop, if_pos hlt, List.filterMap_append]
    cases hnext : next.presented? <;> simp [hnext, others]
  refine ⟨others, ?_, hset⟩
  have hself := hset cycles[id]
  rwa [List.set_getElem_self] at hself

/-- Each cycle presents the refresh token that it was started with. -/
theorem filterMap_presented?_sublist (cycles : List Cycle) :
    (cycles.filterMap Cycle.presented?).Sublist (cycles.map Cycle.refreshToken) := by
  induction cycles with
  | nil => exact .slnil
  | cons cycle rest ih =>
    cases hready : cycle.isReady with
    | true =>
      have hnone : cycle.presented? = none := if_pos hready
      rw [List.filterMap_cons_none hnone]
      exact ih.cons _
    | false =>
      have hsome : cycle.presented? = some cycle.refreshToken := if_neg (by simp [hready])
      rw [List.filterMap_cons_some hsome]
      exact ih.cons_cons _

/-- All but those that are still at their first stage have presented a token. -/
theorem length_filterMap_presented? (cycles : List Cycle) :
    (cycles.filterMap Cycle.presented?).length + cycles.countP Cycle.isReady =
      cycles.length := by
  have hsome : ∀ cycle : Cycle, cycle.presented?.isSome = !cycle.isReady := by
    intro cycle
    cases hready : cycle.isReady <;> simp [Cycle.presented?, hready]
  rw [List.length_filterMap_eq_countP, List.length_eq_countP_add_countP Cycle.isReady]
  simp only [hsome, Bool.not_eq_true, Bool.decide_eq_false]
  exact Nat.add_comm _ _

theorem Presents.congr (h : c.Presents) (hcycles : c'.cycles = c.cycles)
    (hpresented : c'.presented = c.presented) : c'.Presents := by
  rw [Presents, hcycles, hpresented]
  exact h

/-- A cycle goes on, and presents what it has to as it does. -/
theorem Presents.set (h : c.Presents) {id : CycleId} {cycle next : Cycle} (newly : List String)
    (hid : c.cycles[id]? = some cycle) (hcycles : c'.cycles = c.cycles.set id next)
    (hpresented : c'.presented = newly ++ c.presented)
    (hnext : next.presented?.toList = newly ++ cycle.presented?.toList) : c'.Presents := by
  obtain ⟨others, hbefore, hafter⟩ := exists_presented_set_perm hid
  have hall : (newly ++ c.presented).Perm (newly ++ (cycle.presented?.toList ++ others)) :=
    (h.trans hbefore).append_left newly
  rw [← List.append_assoc, ← hnext] at hall
  rw [Presents, hcycles, hpresented]
  exact hall.trans (hafter next).symm

theorem Presents.touch {caller : Nat} (h : c.Presents) (htouch : Touch caller c c') :
    c'.Presents := by
  cases htouch with
  | nothing => exact h
  | sent request => exact h.congr rfl (presented_transmit_caller caller request c)
  | started refreshToken hslot hrefresh =>
    -- the new cycle has presented nothing yet
    let cycle : Cycle := { refreshToken := refreshToken }
    have hnew : (c.cycles ++ [cycle]).filterMap Cycle.presented? =
        c.cycles.filterMap Cycle.presented? := by
      rw [List.filterMap_append]
      exact List.append_nil _
    rw [Presents, hnew]
    exact h
  | wrote store => exact h.congr rfl rfl
  | turned redirector => exact h.congr rfl rfl

theorem Presents.goOn (h : c.Presents) (id : CycleId) {stage : CycleStage}
    (hready : ∀ r, (Cycle.mk r stage).isReady = false) : (c.goOn id stage).Presents := by
  by_cases hid : ∃ refreshToken, c.cycles[id]? = some ⟨refreshToken, .inFlight⟩
  · obtain ⟨refreshToken, hid⟩ := hid
    rw [goOn_of_inFlight stage hid]
    refine h.set [] hid rfl rfl ?_
    simp only [Cycle.presented?, hready]
    rfl
  · rw [goOn_of_not_inFlight stage (not_exists.mp hid)]
    exact h

section Steps

variable [Backend β]

theorem Presents.advanceCycle (h : c.Presents) (now : Moment) (id : CycleId) :
    (c.advanceCycle now id).Presents := by
  cases hid : c.cycles[id]? with
  | none => rw [advanceCycle_of_getElem?_none hid]; exact h
  | some cycle =>
    obtain ⟨used, stage⟩ := cycle
    cases stage with
    | ready =>
      rw [advanceCycle_ready now hid]
      have hpresented := presented_transmit_cycle id used c
      exact h.set [used] hid rfl hpresented rfl
    | answered tokens =>
      rw [advanceCycle_answered now hid]
      exact h.set [] hid rfl rfl rfl
    | written outcome =>
      rw [advanceCycle_of_getElem? hid]
      exact h.set [] hid rfl rfl rfl
    | released outcome =>
      rw [advanceCycle_released now hid]
      exact h.set [] hid rfl rfl rfl
    | _ => rw [advanceCycle_of_rests now hid rfl]; exact h

theorem Presents.step (h : c.Presents) (now : Moment) (e : Event) : (c.step now e).Presents := by
  cases e with
  | start op => exact h.congr rfl rfl
  | advance caller =>
    cases ha : c.callers[caller]? with
    | none => rw [Console.step, advance_of_getElem?_none ha]; exact h
    | some a =>
      rw [Console.step, advance_of_getElem? ha]
      exact (h.touch (stepActivity_touch now caller a c)).congr rfl rfl
  | answer caller result =>
    obtain ⟨callers, heq, -⟩ := exists_answer_eq caller result c
    rw [Console.step, heq]
    exact h.congr rfl rfl
  | cancel caller =>
    obtain ⟨callers, heq, -⟩ := exists_cancel_eq caller c
    rw [Console.step, heq]
    exact h.congr rfl rfl
  | advanceCycle id => exact h.advanceCycle now id
  | answerCycle id result => exact h.goOn id fun _ => rfl
  | killCycle id => exact h.goOn id fun _ => rfl

/-- **Presented tokens.** In every state of every run the tokens that were presented are those of
the cycles that have left their first stage, each of which has presented its own once. -/
theorem presents_run (routes : RouteTable) (store : Store β) (s : List (Moment × Event)) :
    ((opened routes store).run s).Presents :=
  run_induction' (fun _ now e h => h.step now e) s (List.Perm.refl _)

end Steps

/-! ### No token comes back -/

/-- No two cycles were started with one token, and the session does not hold the token of a cycle
that has written the store. What has been answered but not written yet brings a token of which no
cycle knows. `held` are the refresh tokens that the session has held. -/
structure OneUse (held : List String) (c : Console β) : Prop where
  flight : c.SingleFlight
  current : ∀ token, c.store.session.refresh = some token → token ∈ held
  distinct : (c.cycles.map Cycle.refreshToken).Nodup
  used : ∀ cycle ∈ c.cycles, cycle.refreshToken ∈ held
  spent : ∀ cycle ∈ c.cycles, cycle.stage.hasWritten = true →
    c.store.session.refresh ≠ some cycle.refreshToken
  fresh : ∀ cycle ∈ c.cycles, ∀ tokens, cycle.stage = .answered (.ok tokens) →
    ∃ token, tokens.refresh = some token ∧ isBlank token = false ∧
      ∀ other ∈ c.cycles, other.refreshToken ≠ token

theorem oneUse_opened (routes : RouteTable) (store : Store β) :
    OneUse store.session.refresh.toList (opened routes store) where
  flight := singleFlight_opened routes store
  current token htoken := by
    have hstore : store.session.refresh = some token := htoken
    rw [hstore]
    exact List.mem_singleton_self token
  distinct := List.nodup_nil
  used cycle hcycle := by cases hcycle
  spent cycle hcycle := by cases hcycle
  fresh cycle hcycle := by cases hcycle

/-- Nothing happens to the cycles. What comes into the session was held by nobody. -/
theorem OneUse.congr (h : OneUse held c) (hflight : c'.SingleFlight)
    (hcycles : c'.cycles = c.cycles)
    (hfresh : ∀ token, c'.store.session.refresh = some token →
      c.store.session.refresh = some token ∨ token ∉ held) :
    OneUse (c'.store.session.refresh.toList ++ held) c' where
  flight := hflight
  current token htoken := by
    rw [htoken]
    exact List.mem_cons_self
  distinct := by rw [hcycles]; exact h.distinct
  used cycle hcycle := List.mem_append_right _ (h.used cycle (hcycles ▸ hcycle))
  spent cycle hcycle hwritten hrefresh := by
    rw [hcycles] at hcycle
    rcases hfresh _ hrefresh with hbefore | hnew
    · exact h.spent cycle hcycle hwritten hbefore
    · exact hnew (h.used cycle hcycle)
  fresh := by rw [hcycles]; exact h.fresh

/-- Whoever finds the slot empty finds a token in the session that no cycle was started with. -/
theorem OneUse.started (h : OneUse held c) {refreshToken : String} (hslot : c.pending = none)
    (hrefresh : c.store.session.refresh = some refreshToken)
    (hcycles : c'.cycles = c.cycles ++ [{ refreshToken := refreshToken }])
    (hstore : c'.store = c.store) (hflight : c'.SingleFlight) :
    OneUse (c'.store.session.refresh.toList ++ held) c' := by
  -- all that were started before have settled, and so have written the store
  have hsettled : ∀ cycle ∈ c.cycles, cycle.stage.isUnsettled = false := by
    intro cycle hcycle
    obtain ⟨id, hid⟩ := List.mem_iff_getElem?.mp hcycle
    refine Bool.eq_false_iff.mpr fun hunsettled => ?_
    have hpending := (h.flight.slot id).mpr ⟨cycle, hid, hunsettled⟩
    rw [hslot] at hpending
    cases hpending
  have hwritten : ∀ cycle ∈ c.cycles, cycle.stage.hasWritten = true := fun cycle hcycle =>
    CycleStage.hasWritten_of_settled (hsettled cycle hcycle)
  have hne : ∀ cycle ∈ c.cycles, cycle.refreshToken ≠ refreshToken := by
    rintro cycle hcycle rfl
    exact h.spent cycle hcycle (hwritten cycle hcycle) hrefresh
  have hmem : ∀ cycle, cycle ∈ c'.cycles → cycle ∈ c.cycles ∨ cycle = ⟨refreshToken, .ready⟩ := by
    intro cycle hcycle
    rw [hcycles] at hcycle
    exact (List.mem_append.mp hcycle).imp_right List.mem_singleton.mp
  have hheld : c'.store.session.refresh = some refreshToken := by rw [hstore]; exact hrefresh
  rw [hheld]
  refine ⟨hflight, fun token htoken => ?_, ?_, fun cycle hcycle => ?_, fun cycle hcycle => ?_,
    fun cycle hcycle tokens hstage => ?_⟩
  · rw [hheld, Option.some_inj] at htoken
    exact htoken ▸ List.mem_cons_self
  · rw [hcycles, List.map_append]
    refine List.nodup_append.mpr ⟨h.distinct, by simp, ?_⟩
    intro token htoken other hother
    obtain ⟨cycle, hcycle, rfl⟩ := List.mem_map.mp htoken
    rw [List.map_singleton, List.mem_singleton] at hother
    exact hother ▸ hne cycle hcycle
  · rcases hmem cycle hcycle with hold | rfl
    · exact List.mem_cons_of_mem _ (h.used cycle hold)
    · exact List.mem_cons_self
  · rcases hmem cycle hcycle with hold | rfl
    · intro _ heq
      rw [hheld, Option.some_inj] at heq
      exact hne cycle hold heq.symm
    · intro hwritten
      cases hwritten
  · rcases hmem cycle hcycle with hold | rfl
    · have hstill := hsettled cycle hold
      rw [hstage] at hstill
      cases hstill
    · cases hstage

/-- A cycle keeps its refresh token as it goes on. -/
theorem map_refreshToken_set {cycles : List Cycle} {id : CycleId} {refreshToken : String}
    {old : CycleStage} (hid : cycles[id]? = some ⟨refreshToken, old⟩) (stage : CycleStage) :
    (cycles.set id ⟨refreshToken, stage⟩).map Cycle.refreshToken =
      cycles.map Cycle.refreshToken := by
  have htoken : (cycles.map Cycle.refreshToken)[id]? = some refreshToken := by
    rw [List.getElem?_map, hid]
    rfl
  obtain ⟨hlt, rfl⟩ := List.getElem?_eq_some_iff.mp htoken
  rw [List.map_set]
  exact List.set_getElem_self hlt

/-- A cycle goes on. What comes into the session was no cycle's. -/
theorem OneUse.move (h : OneUse held c) {id : CycleId} {refreshToken : String}
    {old stage : CycleStage} (hid : c.cycles[id]? = some ⟨refreshToken, old⟩)
    (hflight : c'.SingleFlight) (hcycles : c'.cycles = c.cycles.set id ⟨refreshToken, stage⟩)
    (hstore : ∀ token, c'.store.session.refresh = some token →
      c.store.session.refresh = some token ∨ ∀ other ∈ c.cycles, other.refreshToken ≠ token)
    (hspent : stage.hasWritten = true → c'.store.session.refresh ≠ some refreshToken)
    (hfresh : ∀ tokens, stage = .answered (.ok tokens) →
      ∃ token, tokens.refresh = some token ∧ isBlank token = false ∧
        ∀ other ∈ c.cycles, other.refreshToken ≠ token) :
    OneUse (c'.store.session.refresh.toList ++ held) c' := by
  have hself : (⟨refreshToken, old⟩ : Cycle) ∈ c.cycles := List.mem_of_getElem? hid
  have hmem : ∀ cycle, cycle ∈ c'.cycles → cycle ∈ c.cycles ∨ cycle = ⟨refreshToken, stage⟩ := by
    intro cycle hcycle
    rw [hcycles] at hcycle
    exact List.mem_or_eq_of_mem_set hcycle
  -- a token that no cycle had before is no cycle's afterwards
  have hothers : ∀ token, (∀ other ∈ c.cycles, other.refreshToken ≠ token) →
      ∀ other ∈ c'.cycles, other.refreshToken ≠ token := by
    intro token hnone other hother
    rcases hmem other hother with hold | rfl
    · exact hnone other hold
    · exact hnone ⟨refreshToken, old⟩ hself
  refine ⟨hflight, fun token htoken => ?_, ?_, fun cycle hcycle => ?_,
    fun cycle hcycle hwritten => ?_, fun cycle hcycle tokens hstage => ?_⟩
  · rw [htoken]
    exact List.mem_cons_self
  · rw [hcycles, map_refreshToken_set hid stage]
    exact h.distinct
  · refine List.mem_append_right _ ?_
    rcases hmem cycle hcycle with hold | rfl
    · exact h.used cycle hold
    · exact h.used ⟨refreshToken, old⟩ hself
  · rcases hmem cycle hcycle with hold | rfl
    · intro hrefresh
      rcases hstore _ hrefresh with hbefore | hnone
      · exact h.spent cycle hold hwritten hbefore
      · exact hnone cycle hold rfl
    · exact hspent hwritten
  · rcases hmem cycle hcycle with hold | rfl
    · obtain ⟨token, hrefresh, hblank, hnone⟩ := h.fresh cycle hold tokens hstage
      exact ⟨token, hrefresh, hblank, hothers token hnone⟩
    · obtain ⟨token, hrefresh, hblank, hnone⟩ := hfresh tokens hstage
      exact ⟨token, hrefresh, hblank, hothers token hnone⟩

/-- A renewal is answered, or will never be. -/
theorem OneUse.goOn (h : OneUse held c) (id : CycleId) {stage : CycleStage}
    (hflight : (c.goOn id stage).SingleFlight) (hwritten : stage.hasWritten = false)
    (hfresh : ∀ used tokens, c.cycles[id]? = some ⟨used, .inFlight⟩ →
      stage = .answered (.ok tokens) →
      ∃ token, tokens.refresh = some token ∧ isBlank token = false ∧ token ∉ held) :
    OneUse ((c.goOn id stage).store.session.refresh.toList ++ held) (c.goOn id stage) := by
  by_cases hid : ∃ refreshToken, c.cycles[id]? = some ⟨refreshToken, .inFlight⟩
  · obtain ⟨used, hid⟩ := hid
    rw [goOn_of_inFlight stage hid] at hflight ⊢
    refine h.move hid hflight rfl (fun _ htoken => Or.inl htoken) (fun hs => ?_)
      (fun tokens hstage => ?_)
    · rw [hwritten] at hs
      cases hs
    · obtain ⟨token, hrefresh, hblank, hnew⟩ := hfresh used tokens hid hstage
      refine ⟨token, hrefresh, hblank, ?_⟩
      rintro other hother rfl
      exact hnew (h.used other hother)
  · rw [goOn_of_not_inFlight stage (not_exists.mp hid)]
    exact h.congr h.flight rfl fun _ htoken => Or.inl htoken

/-! ### Runs in which no token comes back -/

section Runs

variable [Backend β]

/-- No refresh token comes back in the event, where `held` are those that the session has held:
whoever puts one into the session puts one that is new to it, and so does the server that answers a
renewal. -/
def BringsFresh (held : List String) (now : Moment) (c : Console β) : Event → Prop
  | .advance caller => ∀ token, (c.advance now caller).store.session.refresh = some token →
      c.store.session.refresh = some token ∨ token ∉ held
  | .answerCycle id result => ∀ used tokens, c.cycles[id]? = some ⟨used, .inFlight⟩ →
      Renewal.tokens result = .ok tokens →
      ∃ token, tokens.refresh = some token ∧ isBlank token = false ∧ token ∉ held
  | _ => True

/-- No refresh token comes back in the run. -/
def Rotates (held : List String) (c : Console β) : List (Moment × Event) → Prop
  | [] => True
  | (now, e) :: rest =>
    BringsFresh held now c e ∧
      Rotates ((c.step now e).store.session.refresh.toList ++ held) (c.step now e) rest

/-- A caller that leaves the refresh token of the session as it is brings none back. -/
theorem bringsFresh_advance {now : Moment} {caller : Nat}
    (h : (c.advance now caller).store.session.refresh = c.store.session.refresh) :
    BringsFresh held now c (.advance caller) := fun _ htoken => Or.inl (h ▸ htoken)

/-- What a cycle leaves in the session was there before, or has been brought by the renewal. -/
theorem refresh_settle {s : Store β} {used token : String} {now : Moment}
    {tokens : Except RenewalFailure RenewedTokens}
    (hrefresh : (s.settle now used tokens).2.session.refresh = some token) :
    s.session.refresh = some token ∧ s.session.refresh ≠ some used ∨
      ∃ t, tokens = .ok t ∧ ((t.refresh.bind nonBlank?).or s.session.refresh) = some token := by
  by_cases hholds : s.session.refresh = some used
  · rw [Store.session_settle_of_holds hholds] at hrefresh
    cases tokens with
    | ok t => exact Or.inr ⟨t, rfl, hrefresh⟩
    | error e => cases hrefresh
  · rw [Store.settle_of_not_holds hholds] at hrefresh
    exact Or.inl ⟨hrefresh, hholds⟩

theorem OneUse.advanceCycle (h : OneUse held c) (now : Moment) (id : CycleId) :
    OneUse ((c.advanceCycle now id).store.session.refresh.toList ++ held)
      (c.advanceCycle now id) := by
  have hflight := h.flight.step now (.advanceCycle id)
  rw [Console.step] at hflight
  cases hid : c.cycles[id]? with
  | none =>
    rw [advanceCycle_of_getElem?_none hid]
    exact h.congr h.flight rfl fun _ htoken => Or.inl htoken
  | some cycle =>
    obtain ⟨used, stage⟩ := cycle
    have hself : (⟨used, stage⟩ : Cycle) ∈ c.cycles := List.mem_of_getElem? hid
    cases stage with
    | ready =>
      rw [advanceCycle_ready now hid] at hflight ⊢
      exact h.move hid hflight rfl (fun _ htoken => Or.inl htoken) (fun hs => by cases hs)
        (fun _ hs => by cases hs)
    | answered tokens =>
      rw [advanceCycle_answered now hid] at hflight ⊢
      -- the token that the renewal brings has been no cycle's
      have hbrought : ∀ t, tokens = .ok t → ∃ token, t.refresh.bind nonBlank? = some token ∧
          ∀ other ∈ c.cycles, other.refreshToken ≠ token := by
        rintro t rfl
        obtain ⟨token, hrefresh, hblank, hnone⟩ := h.fresh _ hself t rfl
        refine ⟨token, ?_, hnone⟩
        rw [hrefresh]
        exact nonBlank?_eq_some_iff.mpr ⟨rfl, hblank⟩
      refine h.move hid hflight rfl (fun token hrefresh => ?_) (fun _ hrefresh => ?_)
        (fun _ hs => by cases hs)
      · rcases refresh_settle hrefresh with ⟨hbefore, -⟩ | ⟨t, ht, htoken⟩
        · exact Or.inl hbefore
        · obtain ⟨brought, heq, hnone⟩ := hbrought t ht
          rw [heq, Option.some_or, Option.some_inj] at htoken
          exact Or.inr (htoken ▸ hnone)
      · rcases refresh_settle hrefresh with ⟨hbefore, hne⟩ | ⟨t, ht, htoken⟩
        · exact hne hbefore
        · obtain ⟨brought, heq, hnone⟩ := hbrought t ht
          rw [heq, Option.some_or, Option.some_inj] at htoken
          exact hnone _ hself htoken.symm
    | written outcome =>
      have hslot : c.pending = some id := (h.flight.slot id).mpr ⟨_, hid, rfl⟩
      rw [advanceCycle_written now hid hslot] at hflight ⊢
      exact h.move hid hflight rfl (fun _ htoken => Or.inl htoken)
        (fun _ => h.spent _ hself rfl) (fun _ hs => by cases hs)
    | released outcome =>
      rw [advanceCycle_released now hid] at hflight ⊢
      exact h.move hid hflight rfl (fun _ htoken => Or.inl htoken)
        (fun _ => h.spent _ hself rfl) (fun _ hs => by cases hs)
    | _ =>
      rw [advanceCycle_of_rests now hid rfl]
      exact h.congr h.flight rfl fun _ htoken => Or.inl htoken

/-- **Steps of a run.** As long as no refresh token comes back, each is used by one cycle. -/
theorem OneUse.step (h : OneUse held c) {now : Moment} {e : Event}
    (he : BringsFresh held now c e) :
    OneUse ((c.step now e).store.session.refresh.toList ++ held) (c.step now e) := by
  have hflight := h.flight.step now e
  cases e with
  | start op => exact h.congr hflight rfl fun _ htoken => Or.inl htoken
  | advance caller =>
    have hbrings : ∀ token, (c.advance now caller).store.session.refresh = some token →
        c.store.session.refresh = some token ∨ token ∉ held := he
    rw [Console.step] at hflight ⊢
    cases ha : c.callers[caller]? with
    | none =>
      rw [advance_of_getElem?_none ha]
      exact h.congr h.flight rfl fun _ htoken => Or.inl htoken
    | some a =>
      rw [advance_of_getElem? ha] at hflight hbrings ⊢
      have htouch := stepActivity_touch now caller a c
      generalize (c.stepActivity now caller a).2 = d at htouch hflight hbrings ⊢
      cases htouch with
      | started refreshToken hslot hrefresh => exact h.started hslot hrefresh rfl rfl hflight
      | _ => exact h.congr hflight rfl hbrings
  | answer caller result =>
    obtain ⟨callers, heq, -⟩ := exists_answer_eq caller result c
    rw [Console.step, heq] at hflight ⊢
    exact h.congr hflight rfl fun _ htoken => Or.inl htoken
  | cancel caller =>
    obtain ⟨callers, heq, -⟩ := exists_cancel_eq caller c
    rw [Console.step, heq] at hflight ⊢
    exact h.congr hflight rfl fun _ htoken => Or.inl htoken
  | advanceCycle id => exact h.advanceCycle now id
  | answerCycle id result =>
    exact h.goOn id hflight rfl fun used tokens hid hstage =>
      he used tokens hid (CycleStage.answered.inj hstage)
  | killCycle id => exact h.goOn id hflight rfl fun _ _ _ hstage => by cases hstage

theorem OneUse.run (h : OneUse held c) {s : List (Moment × Event)} (hs : Rotates held c s) :
    ∃ held', OneUse held' (c.run s) := by
  induction s generalizing held c with
  | nil => exact ⟨held, h⟩
  | cons x rest ih =>
    obtain ⟨now, e⟩ := x
    exact ih (h.step hs.1) hs.2

/-- **Refresh tokens are presented once.** In every run in which no refresh token comes back into
the session, every renewal that was sent presents one, and no two of them the same. -/
theorem presented_once (routes : RouteTable) (store : Store β) {s : List (Moment × Event)}
    (hs : Rotates store.session.refresh.toList (opened routes store) s) :
    let c := (opened routes store).run s
    c.presented.Nodup ∧ c.presented.length = c.renewalsSent := by
  intro c
  obtain ⟨held, honce⟩ : ∃ held, OneUse held c := (oneUse_opened routes store).run hs
  have hpresents : c.Presents := presents_run routes store s
  refine ⟨?_, ?_⟩
  · rw [hpresents.nodup_iff]
    exact (filterMap_presented?_sublist c.cycles).nodup honce.distinct
  · have hpast := length_filterMap_presented? c.cycles
    have hsent := honce.flight.sent
    rw [hpresents.length_eq]
    omega

end Runs

/-- An answer to a renewal that brings a refresh token along with the access token. -/
def rotation : Response :=
  { status := default
    body := "\x7b\"tokens\":\x7b\"access\":\"A2\",\"refresh\":\"R2\"\x7d\x7d" }

/-- Two callers ask for a renewal in one session, and the second looks for a cycle only when that of
the first has settled. A third asks in the renewed session and goes away, and a fourth, once that
renewal has failed and somebody has signed in. -/
def renewedThrice : List (Moment × Event) :=
  [ .start .refresh, .start .refresh, .advance 0, .advance 1, .advance 0, .advanceCycle 0,
    .answerCycle 0 (.ok rotation), .advanceCycle 0, .advanceCycle 0, .advanceCycle 0, .advance 1,
    .start .refresh, .advance 2, .advance 2, .advanceCycle 1, .cancel 2,
    .answerCycle 1 (.ok .expired), .advanceCycle 1, .advanceCycle 1,
    .start (.write (.setSession ⟨some "B1", some "R9"⟩)), .advance 3,
    .start .refresh, .advance 4, .advance 4, .advanceCycle 2 ].map (default, ·)

theorem presented_once_renewedThrice :
    let c := signedIn.run renewedThrice
    c.presented = ["R9", "R2", "R1"] ∧ c.presented.Nodup ∧ c.presented.length = c.renewalsSent := by
  have hrotates : Rotates ["R1"] signedIn renewedThrice := by
    refine ⟨trivial, trivial, bringsFresh_advance rfl, bringsFresh_advance rfl,
      bringsFresh_advance rfl, trivial, ?_, trivial, trivial, trivial, bringsFresh_advance rfl,
      trivial, bringsFresh_advance rfl, bringsFresh_advance rfl, trivial, trivial, ?_, trivial,
      trivial, trivial, ?_, trivial, bringsFresh_advance rfl, bringsFresh_advance rfl, trivial,
      trivial⟩
    · intro used tokens _ htokens
      cases htokens
      exact ⟨"R2", rfl, by decide, by decide⟩
    · intro used tokens _ htokens
      cases htokens
    · intro token htoken
      cases htoken
      exact Or.inr (by decide)
  exact ⟨rfl, presented_once _ _ hrotates⟩

end Console

end AdminConsole
