import AdminConsole.Proofs.Console.Moves
import AdminConsole.Proofs.Console.Stretch
import AdminConsole.Proofs.Http.Bearer
import AdminConsole.Proofs.Redirector
import AdminConsole.Proofs.Route.Standard

/-!
# Failures that meet a newer session

A session can be replaced while a renewal of the old one is under way. A cycle asks whether the
session still holds the refresh token it was started with, so its failure leaves a newer session
alone (`store_stretchCycle_of_not_holds`). A caller that waited for it does not ask that. It
compares access tokens, and takes the newer session for its own if its request was already sent in
that session: `waiter_clears_iff` says exactly when it clears a session that the cycle would have
left alone.
-/

namespace AdminConsole

open AdminConsole.Time

/-! ### What a request that waits is owed -/

/-- Whoever waits for a renewal, or is about to, does so on account of a failure that calls for
it. -/
def Exchange.IsSound : Exchange → Prop
  | .joining request scope response | .waiting request scope response _
  | .reconsidering request scope response => request.CallsForRenewal scope response
  | _ => True

/-- The request of a caller, if there is one, is sound. -/
def Activity.IsSound : Activity → Prop
  | .exchange _ x => x.IsSound
  | _ => True

namespace Exchange

theorem isSound_answer (x : Exchange) (h : x.IsSound) (result : Except ApiError Response) :
    (x.answer result).IsSound := by
  cases x with
  | inFlight request scope =>
    cases result with
    | error e => trivial
    | ok response =>
      simp only [answer]
      split <;> trivial
  | _ => exact h

end Exchange

/-- Nobody but one who signs out goes on without the answer that was asked for. -/
theorem Goal.exists_next_error {goal : Goal} (h : goal ≠ .signOut) (e : ApiError) :
    ∃ outcome, goal.next (.error e) = .finished outcome := by
  cases goal with
  | signOut => exact absurd rfl h
  | _ => exact ⟨_, rfl⟩

namespace Console

variable {β : Type} {c : Console β}

/-- The request of every caller is sound. -/
def Sound (c : Console β) : Prop := ∀ a ∈ c.callers, a.IsSound

variable [Backend β]

theorem isSound_stepExchange (now : Moment) (caller : Nat) {x : Exchange} (h : x.IsSound)
    (c : Console β) : (c.stepExchange now caller x).1.IsSound := by
  generalize hy : (c.stepExchange now caller x).1 = y
  cases Exchange.stepsTo_of_stepExchange hy with
  | recovers hdecision => exact FailureContext.callsForRenewal_of_decide hdecision
  | joins | refused | waits | failed => exact h
  | _ => trivial

/-- Every step keeps the callers sound. -/
theorem Sound.step (h : c.Sound) (now : Moment) (e : Event) : (c.step now e).Sound := by
  intro a ha
  cases a with
  | exchange goal x =>
    obtain ⟨k, hk⟩ := List.getElem?_of_mem ha
    cases movedRequest_of_getElem? hk with
    | stayed hx he => exact h _ (List.mem_of_getElem? hx)
    | stepped hx he => exact isSound_stepExchange now k (h _ (List.mem_of_getElem? hx)) c
    | answered result hx he =>
      exact Exchange.isSound_answer _ (h _ (List.mem_of_getElem? hx)) result
    | _ => trivial
  | _ => trivial

theorem Reachable.sound (h : c.Reachable) : c.Sound := by
  obtain ⟨routes, store, s, rfl⟩ := h
  exact run_induction' (fun _ now e hd => hd.step now e) s (by simp [Sound, opened])

/-! ### Where a stretch leads -/

theorem glide_finished (now : Moment) (caller limit : Nat) (outcome : Outcome)
    (c : Console β) : glide now caller limit (.finished outcome) c = (.finished outcome, c) := by
  cases limit <;> rfl

/-- A caller whose request came to nothing is done, but for one that signs out. -/
theorem glide_error (now : Moment) (caller limit : Nat) (goal : Goal) (e : ApiError)
    (c : Console β) :
    let d := (glide now caller (limit + 3) (.exchange goal (.finished (.error e))) c).2
    d.redirector = c.redirector ∧
      d.store = if goal = .signOut then (c.store.clear now .session).clearPeer else c.store := by
  intro d
  by_cases hgoal : goal = .signOut
  · subst hgoal
    have hd : d = { c with store := (c.store.clear now .session).clearPeer } :=
      congrArg Prod.snd (glide_finished now caller limit .done _)
    rw [hd]
    exact ⟨rfl, rfl⟩
  · obtain ⟨outcome, hnext⟩ := Goal.exists_next_error hgoal e
    have hd : d = (glide now caller (limit + 2) (goal.next (.error e)) c).2 := rfl
    rw [hd, hnext, glide_finished, if_neg hgoal]
    exact ⟨rfl, rfl⟩

/-- A caller whose session is lost sends the user to the login page, and is done. -/
theorem glide_redirecting (now : Moment) (caller limit : Nat) (goal : Goal) (request : Request)
    (said : String) (generation : Nat) (c : Console β) :
    let d := (glide now caller (limit + 5) (.exchange goal (.redirecting request said generation))
      c).2
    d.redirector = (c.redirector.redirect request generation).2 ∧
      d.store = if goal = .signOut then (c.store.clear now .session).clearPeer else c.store := by
  intro d
  let marked := { c with redirector := (c.redirector.mark request generation).2 }
  rw [Redirector.redirect_snd]
  cases hfirst : (c.redirector.mark request generation).1 with
  | true =>
    have hd : d = (glide now caller (limit + 4) (.exchange goal (.navigating said)) marked).2 := by
      change (glide now caller (limit + 5) _ c).2 = _
      rw [glide_succ rfl, stepActivity_redirecting_of_first hfirst]
    rw [hd, glide_succ rfl]
    exact glide_error now caller limit goal (.sessionExpired said) _
  | false =>
    have hd : d = (glide now caller (limit + 4)
        (.exchange goal (.finished (.error (.sessionExpired said)))) marked).2 := by
      change (glide now caller (limit + 5) _ c).2 = _
      rw [glide_succ rfl, stepActivity_redirecting_of_not_first hfirst]
    rw [hd]
    exact glide_error now caller (limit + 1) goal (.sessionExpired said) marked

/-- A caller that is about to clear the session clears it, whichever it is, and sends the user to
the login page. -/
theorem glide_clearing (now : Moment) (caller limit : Nat) (goal : Goal) (request : Request)
    (said : String) (c : Console β) :
    let d := (glide now caller (limit + 7) (.exchange goal (.clearing request said)) c).2
    d.store.session = {} ∧
      d.redirector = (c.redirector.redirect request c.store.generation).2 := by
  intro d
  let cleared := { c with store := c.store.clear now .session }
  have hd : d = (glide now caller (limit + 5)
      (.exchange goal (.redirecting request said c.store.generation)) cleared).2 := by
    change (glide now caller (limit + 7) (.exchange goal (.clearing request said)) c).2 = _
    rw [glide_succ rfl, glide_succ rfl]
    rfl
  obtain ⟨hredirector, hstore⟩ := glide_redirecting now caller limit goal request said
    c.store.generation cleared
  rw [hd]
  refine ⟨?_, hredirector⟩
  rw [hstore]
  split <;> rfl

/-! ### The cycle -/

/-- A cycle does not touch a session that does not hold the refresh token it was started with. -/
theorem advanceCycle_of_not_holds {id : CycleId} {cycle : Cycle} (hid : c.cycles[id]? = some cycle)
    (hholds : c.store.holds cycle.refreshToken = false) (now : Moment) :
    (c.advanceCycle now id).store = c.store ∧ ∃ stage,
      (c.advanceCycle now id).cycles[id]? = some ⟨cycle.refreshToken, stage⟩ := by
  obtain ⟨used, stage⟩ := cycle
  have hlt : id < c.cycles.length := (List.getElem?_eq_some_iff.mp hid).1
  cases stage with
  | answered tokens =>
    have hrefresh : c.store.session.refresh ≠ some used := fun h => by
      rw [Store.holds_iff.mpr h] at hholds
      cases hholds
    rw [advanceCycle_answered now hid, Store.settle_of_not_holds hrefresh]
    exact ⟨rfl, _, List.getElem?_set_self hlt⟩
  | _ =>
    rw [advanceCycle_of_getElem? hid]
    exact ⟨rfl, _, List.getElem?_set_self hlt⟩

theorem store_stretchCycle_of_not_holds {id : CycleId} {cycle : Cycle}
    (hid : c.cycles[id]? = some cycle) (hholds : c.store.holds cycle.refreshToken = false)
    (now : Moment) : (c.stretchCycle now id).store = c.store := by
  unfold stretchCycle
  generalize stretchLimit = limit
  induction limit generalizing c cycle with
  | zero => rfl
  | succ limit ih =>
    rw [advanceCycleWhile]
    split
    · obtain ⟨hstore, stage, hnext⟩ := advanceCycle_of_not_holds hid hholds now
      exact (ih hnext (hstore ▸ hholds)).trans hstore
    · rfl

/-! ### Those who waited for it -/

/-- A caller takes the session to be the one that its request was sent in: there is no access token,
or it is the one that the request is seen to carry. One that signs out also gives up the session if
its access token may not stand in a header, since it cannot send its request again. -/
def TakesForOwn (c : Console β) (goal : Goal) (request : Request) : Prop :=
  c.store.session.access = none ∨ c.store.session.access = request.bearer ∨
    goal = .signOut ∧ ∃ token, c.store.session.access = some token ∧
      HeaderValue.isValid token = false

section Waking

variable {goal : Goal} {request : Request} {scope : Scope} {response : Response}

theorem stepActivity_waiting {id : CycleId} {failure : RenewalFailure}
    (h : c.outcome? id = some (.error failure)) (now : Moment) (caller : Nat) :
    c.stepActivity now caller (.exchange goal (.waiting request scope response id)) =
      (.exchange goal (.reconsidering request scope response), c) := by
  simp only [stepActivity, stepExchange, h, Exchange.resume]

theorem stepActivity_reconsidering_of_kept
    (h : replacement? c.store.session.access request.bearer = none) (now : Moment) (caller : Nat) :
    c.stepActivity now caller (.exchange goal (.reconsidering request scope response)) =
      (.exchange goal (.clearing request (ApiError.ofResponse response).said), c) := by
  have hget : c.store.get .access = c.store.session.access := rfl
  simp only [stepActivity, stepExchange, hget, h]

theorem stepActivity_reconsidering_of_replaced {token : String}
    (h : replacement? c.store.session.access request.bearer = some token) (now : Moment)
    (caller : Nat) :
    c.stepActivity now caller (.exchange goal (.reconsidering request scope response)) =
      (.exchange goal (.failed request scope response), c) := by
  have hget : c.store.get .access = c.store.session.access := rfl
  simp only [stepActivity, stepExchange, hget, h]

theorem stepActivity_failed_of_replaced {token : String} (hrequest : request.IsRecoverable)
    (hstatus : response.status.code = 401)
    (h : replacement? c.store.session.access request.bearer = some token) (now : Moment)
    (caller : Nat) :
    c.stepActivity now caller (.exchange goal (.failed request .primary response)) =
      (.exchange goal (Exchange.replay request .primary token), c) := by
  have hdecide := FailureContext.decide_of_isRecoverable hrequest hstatus c.store.session.access
    c.store.session.refresh
  simp only [h] at hdecide
  simp only [stepActivity, stepExchange, hdecide, Exchange.decided]

/-- Sending a request again leaves the store alone. It cannot be sent with a token that may not
stand in a header, and then one that signs out clears the session all the same. -/
theorem glide_replay (goal : Goal) (request : Request) (scope : Scope) (token : String)
    (now : Moment) (caller limit : Nat) (c : Console β) :
    let d := (glide now caller (limit + 3)
      (.exchange goal (Exchange.replay request scope token)) c).2
    (goal = .signOut ∧ HeaderValue.isValid token = false → d.store.session = {}) ∧
      (¬ (goal = .signOut ∧ HeaderValue.isValid token = false) → d.store = c.store) := by
  intro d
  cases hvalid : HeaderValue.isValid token with
  | true =>
    obtain ⟨replay, hreplay, -⟩ := request.exists_replayWith? hvalid
    have hd : d = c.transmit (.caller caller) replay := by
      change (glide now caller (limit + 3) _ c).2 = _
      rw [Exchange.replay, hreplay]
      rfl
    rw [hd]
    exact ⟨by simp, fun _ => rfl⟩
  | false =>
    have hreplay : request.replayWith? token = none := by
      rw [Request.replayWith?_eq, hvalid]
      rfl
    have hd : d = (glide now caller (limit + 3)
        (.exchange goal (.finished (.error (.invalidRequest .credentialNotHeaderValue)))) c).2 := by
      change (glide now caller (limit + 3) _ c).2 = _
      rw [Exchange.replay, hreplay]
    rw [hd]
    -- the request comes to nothing without being sent
    obtain ⟨-, hstore⟩ := glide_error now caller limit goal
      (.invalidRequest .credentialNotHeaderValue) c
    refine ⟨fun hboth => ?_, fun hnot => ?_⟩
    · rw [hstore, if_pos hboth.1]
      rfl
    · rw [hstore, if_neg fun hgoal => hnot ⟨hgoal, rfl⟩]

/-- A caller that waited for a cycle that failed either takes the session for its own and clears
it, or leaves the store alone. -/
theorem glide_waiting (goal : Goal) {id : CycleId} {failure : RenewalFailure}
    (hsound : request.CallsForRenewal scope response)
    (houtcome : c.outcome? id = some (.error failure)) (now : Moment) (caller limit : Nat) :
    let d := (glide now caller (limit + 9)
      (.exchange goal (.waiting request scope response id)) c).2
    (c.TakesForOwn goal request → d.store.session = {}) ∧
      (¬ c.TakesForOwn goal request → d.store = c.store) := by
  intro d
  obtain ⟨rfl, hstatus, hrecoverable⟩ := hsound
  have hmay : c.mayAdvance (.exchange goal (.waiting request .primary response id)) = true :=
    Option.isSome_of_eq_some houtcome
  have hd : d = (glide now caller (limit + 8)
      (.exchange goal (.reconsidering request .primary response)) c).2 := by
    change (glide now caller (limit + 9) _ c).2 = _
    rw [glide_succ hmay, stepActivity_waiting houtcome]
  rw [hd, glide_succ rfl]
  -- what the caller does is up to the access token that it finds now
  cases hreplaced : replacement? c.store.session.access request.bearer with
  | none =>
    rw [stepActivity_reconsidering_of_kept hreplaced]
    refine ⟨fun _ => (glide_clearing now caller limit goal request _ c).1, fun hnot => ?_⟩
    rcases replacement?_eq_none_iff.mp hreplaced with hnone | hsame
    · exact absurd (Or.inl hnone) hnot
    · exact absurd (Or.inr (Or.inl hsame)) hnot
  | some token =>
    obtain ⟨haccess, hne⟩ := replacement?_eq_some_iff.mp hreplaced
    have htakes : c.TakesForOwn goal request ↔
        goal = .signOut ∧ HeaderValue.isValid token = false := by
      simp only [TakesForOwn, haccess, reduceCtorEq, false_or, Option.some.injEq, exists_eq_left']
      exact or_iff_right (fun heq => hne heq.symm)
    rw [stepActivity_reconsidering_of_replaced hreplaced, glide_succ rfl,
      stepActivity_failed_of_replaced hrecoverable hstatus hreplaced, htakes]
    exact glide_replay goal request .primary token now caller (limit + 3) c

end Waking

/-- Whoever asked for a renewal and gets to know what came of it does nothing more. -/
theorem store_glide_waiting (now : Moment) (caller limit : Nat) (id : CycleId) (c : Console β) :
    (glide now caller limit (.waiting id) c).2.store = c.store := by
  cases limit with
  | zero => rfl
  | succ limit =>
    have hmay : c.mayAdvance (.waiting id) = (c.outcome? id).isSome := rfl
    cases houtcome : c.outcome? id with
    | none =>
      rw [houtcome] at hmay
      rw [glide, hmay]
      rfl
    | some outcome =>
      rw [houtcome] at hmay
      have hstep : c.stepActivity now caller (.waiting id) = (.finished (.renewed outcome), c) := by
        simp only [stepActivity, houtcome]
      rw [glide_succ hmay, hstep, glide_finished]

/-- Where something may come between the steps of a caller that was woken by a failed cycle, it
makes up its mind in one step and clears the session in another. -/
theorem advance_reconsidering {caller : Nat} {goal : Goal} {request : Request} {scope : Scope}
    {response : Response}
    (h : c.callers[caller]? = some (.exchange goal (.reconsidering request scope response)))
    (now : Moment) :
    (c.advance now caller).store = c.store ∧
      ((c.advance now caller).callers[caller]? =
          some (.exchange goal (.clearing request (ApiError.ofResponse response).said)) ↔
        c.store.session.access = none ∨ c.store.session.access = request.bearer) := by
  have hlt : caller < c.callers.length := (List.getElem?_eq_some_iff.mp h).1
  rw [advance_of_getElem? h, ← replacement?_eq_none_iff]
  cases hreplaced : replacement? c.store.session.access request.bearer with
  | none =>
    rw [stepActivity_reconsidering_of_kept hreplaced]
    exact ⟨rfl, iff_of_true (List.getElem?_set_self hlt) rfl⟩
  | some token =>
    rw [stepActivity_reconsidering_of_replaced hreplaced]
    refine ⟨rfl, iff_of_false (fun hclearing => ?_) (by simp)⟩
    rw [List.getElem?_set_self hlt] at hclearing
    cases hclearing

theorem session_advance_clearing {caller : Nat} {goal : Goal} {request : Request} {said : String}
    (h : c.callers[caller]? = some (.exchange goal (.clearing request said))) (now : Moment) :
    (c.advance now caller).store.session = {} := by
  rw [advance_of_getElem? h]
  rfl

/-- **Failed cycles and newer sessions.** When the session does not hold the refresh token of a
cycle any more, the cycle leaves the store alone, and so does whoever asked for a renewal and waited
for it. A caller with a rejected request that waited for it, once it has failed, clears the session
exactly if it takes it for its own, and leaves the store alone otherwise. If others get between its
steps, it goes by the access token that it finds when it looks, and clears the session that is there
when it clears. -/
theorem waiter_clears_iff (hreachable : c.Reachable) {id : CycleId} {cycle : Cycle}
    {newer : String} (hid : c.cycles[id]? = some cycle)
    (hrefresh : c.store.session.refresh = some newer) (hnewer : newer ≠ cycle.refreshToken)
    (now : Moment) :
    (c.advanceCycle now id).store = c.store ∧ (c.stretchCycle now id).store = c.store ∧
      (∀ caller, c.callers[caller]? = some (.waiting id) →
        (c.stretch now caller).store = c.store) ∧
      (∀ caller goal request scope response failure,
        c.callers[caller]? = some (.exchange goal (.waiting request scope response id)) →
        c.outcome? id = some (.error failure) →
        ((c.stretch now caller).store.session = {} ↔ c.TakesForOwn goal request) ∧
          (¬ c.TakesForOwn goal request → (c.stretch now caller).store = c.store)) ∧
      (∀ caller goal request scope response,
        c.callers[caller]? = some (.exchange goal (.reconsidering request scope response)) →
        (c.advance now caller).store = c.store ∧
          ((c.advance now caller).callers[caller]? =
              some (.exchange goal (.clearing request (ApiError.ofResponse response).said)) ↔
            c.store.session.access = none ∨ c.store.session.access = request.bearer)) ∧
      ∀ caller goal request said,
        c.callers[caller]? = some (.exchange goal (.clearing request said)) →
        (c.advance now caller).store.session = {} := by
  have hholds : c.store.holds cycle.refreshToken = false := by
    have hstored : c.store.stored.session.refresh = some newer := hrefresh
    rw [Store.holds, hstored]
    simpa using hnewer
  refine ⟨(advanceCycle_of_not_holds hid hholds now).1,
    store_stretchCycle_of_not_holds hid hholds now, fun caller hcaller => ?_,
    fun caller goal request scope response failure hcaller houtcome => ?_,
    fun caller goal request scope response hcaller => advance_reconsidering hcaller now,
    fun caller goal request said hcaller => session_advance_clearing hcaller now⟩
  · rw [stretch_eq hcaller]
    exact store_glide_waiting now caller stretchLimit id c
  · have hsound : request.CallsForRenewal scope response :=
      hreachable.sound _ (List.mem_of_getElem? hcaller)
    obtain ⟨hclears, hspares⟩ := glide_waiting goal hsound houtcome now caller 55
    rw [stretch_eq hcaller]
    refine ⟨⟨fun hcleared => ?_, hclears⟩, hspares⟩
    refine Classical.byContradiction fun hnot => ?_
    have hkept : c.store.session = {} :=
      (congrArg Store.session (hspares hnot)).symm.trans hcleared
    rw [hkept] at hrefresh
    cases hrefresh

/-- A request is rejected in a session, and while the renewal of that session is under way another
one is installed. A request of the new session is rejected as well and joins the cycle, which then
fails. -/
def joined : Console MemoryBackend :=
  signedIn.stretchRun <| List.map (default, ·)
    [ .start (.send .listing), .advance 0, .answer 0 (.ok .expired), .advance 0, .advanceCycle 0,
      .start (.write (.setSession ⟨some "B1", some "R9"⟩)), .advance 1,
      .start (.send .listing), .advance 2, .answer 2 (.ok .expired), .advance 2,
      .answerCycle 0 (.ok .expired), .advanceCycle 0 ]

theorem joined_reachable : joined.Reachable :=
  reachable_stretchRun ⟨_, _, [], rfl⟩ _

/-- The caller of the older session sees that it was replaced, and leaves the newer one alone. -/
theorem older_waiter_spares :
    joined.store.session = ⟨some "B1", some "R9"⟩ ∧
      (joined.stretch default 0).store = joined.store := by
  have hid : joined.cycles[0]? = some ⟨"R1", .settled (.error (.rejected .unauthorized))⟩ := by
    rw [joined, signedIn, RouteTable.standard_eq]
    rfl
  have hsession : joined.store.session = ⟨some "B1", some "R9"⟩ := by
    rw [joined, signedIn, RouteTable.standard_eq]
    rfl
  have hcaller : joined.callers[0]? = some (.exchange .response
      (.waiting (Request.listing.withAuthorization "Bearer A1") .primary .expired 0)) := by
    rw [joined, signedIn, RouteTable.standard_eq]
    rfl
  have houtcome : joined.outcome? 0 = some (.error (.rejected .unauthorized)) := by
    rw [outcome?, hid]
    rfl
  obtain ⟨-, -, -, hwaiter, -, -⟩ := waiter_clears_iff joined_reachable hid
    (congrArg TokenPair.refresh hsession) (by decide) default
  refine ⟨hsession, (hwaiter 0 _ _ _ _ _ hcaller houtcome).2 ?_⟩
  rw [TakesForOwn, hsession]
  decide

/-- The caller of the newer session takes the failure of the older one for its own. -/
theorem newer_waiter_clears :
    joined.Reachable ∧
      joined.cycles[0]? = some ⟨"R1", .settled (.error (.rejected .unauthorized))⟩ ∧
      joined.callers[2]? = some (.exchange .response
        (.waiting (Request.listing.withAuthorization "Bearer B1") .primary .expired 0)) ∧
      joined.store.session = ⟨some "B1", some "R9"⟩ ∧
      (joined.stretch default 2).store.session = {} := by
  refine ⟨joined_reachable, ?_⟩
  rw [joined, signedIn, RouteTable.standard_eq]
  exact ⟨rfl, rfl, rfl, rfl⟩

end Console

end AdminConsole
