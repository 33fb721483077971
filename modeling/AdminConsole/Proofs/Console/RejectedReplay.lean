import AdminConsole.Proofs.Console.NewerSession

/-!
# Replays that are rejected

A request that was sent again after a renewal is not renewed for once more: if it is rejected as
well, the session is over. But the session can be replaced while the replay is on its way, and the
caller compares nothing. `rejected_replay_clears` says that it clears whichever session it finds,
and so spares one that is not its own only if there is none.
-/

namespace AdminConsole

open AdminConsole.Time

namespace Console

variable {β : Type} {c : Console β}

/-- The session is left as it is if it holds an access token other than the one that the rejected
request carried. -/
def SparesOther (rejected : Request) (c d : Console β) : Prop :=
  ∀ token, c.store.session.access = some token → ¬ rejected.Carries token →
    d.store.session = c.store.session

theorem sparesOther_iff_of_cleared {rejected : Request} {d : Console β}
    (h : d.store.session = {}) : SparesOther rejected c d ↔
      ∀ token, c.store.session.access = some token → rejected.Carries token := by
  refine ⟨fun hspares token haccess => ?_, fun hown token haccess hother => ?_⟩
  · refine Decidable.byContradiction fun hother => ?_
    rw [← hspares token haccess hother, h] at haccess
    cases haccess
  · exact absurd (hown token haccess) hother

variable [Backend β]

/-! ### What a rejected replay comes to -/

section Rejected

variable {caller : Nat} {goal : Goal} {replay : Request} {response : Response}

theorem stepActivity_failed_of_retried (hretried : replay.retried = true)
    (hstatus : response.status.code = 401) (now : Moment) (caller : Nat) (c : Console β) :
    c.stepActivity now caller (.exchange goal (.failed replay .primary response)) =
      (.exchange goal (.clearing replay (ApiError.ofResponse response).said), c) := by
  simp only [stepActivity, stepExchange, FailureContext.decide_of_retried hretried hstatus,
    Exchange.decided]

theorem stretch_of_rejected
    (h : c.callers[caller]? = some (.exchange goal (.failed replay .primary response)))
    (hretried : replay.retried = true) (hstatus : response.status.code = 401) (now : Moment) :
    (c.stretch now caller).store.session = {} ∧
      (c.stretch now caller).redirector =
        (c.redirector.redirect replay c.store.generation).2 := by
  rw [stretch_eq h, show stretchLimit = 63 + 1 from rfl, glide_succ rfl,
    stepActivity_failed_of_retried hretried hstatus]
  exact glide_clearing now caller 56 goal replay (ApiError.ofResponse response).said c

/-- The caller clears the session in its second step, tells the redirector in its fourth, and sends
the user to the login page in its fifth if it is to do so. -/
theorem run_of_rejected
    (h : c.callers[caller]? = some (.exchange goal (.failed replay .primary response)))
    (hretried : replay.retried = true) (hstatus : response.status.code = 401)
    {t₁ t₂ t₃ t₄ : List (Moment × Event)}
    (hspares : ∀ t ∈ [t₁, t₂, t₃, t₄], ∀ x ∈ t, x.2.sparesCaller caller = true)
    (m₀ m₁ m₂ m₃ m₄ : Moment) :
    let cleared := ((c.advance m₀ caller).run t₁).advance m₁ caller
    let looked := (cleared.run t₂).advance m₂ caller
    let marked := (looked.run t₃).advance m₃ caller
    let redirected := (marked.run t₄).advance m₄ caller
    let mark := (looked.run t₃).redirector.mark replay (cleared.run t₂).store.generation
    cleared.store.session = {} ∧ marked.redirector = mark.2 ∧
      redirected.redirector =
        if mark.1 then (marked.run t₄).redirector.navigate else (marked.run t₄).redirector := by
  intro cleared looked marked redirected mark
  let said := (ApiError.ofResponse response).said
  -- where the caller stands when it is its turn again, whatever came in between
  have hclearing : ((c.advance m₀ caller).run t₁).callers[caller]? =
      some (.exchange goal (.clearing replay said)) := by
    refine getElem?_callers_run ?_ (hspares t₁ (by simp))
    rw [getElem?_callers_advance_self h, stepActivity_failed_of_retried hretried hstatus]
  have hcleared : (cleared.run t₂).callers[caller]? =
      some (.exchange goal (.cleared replay said)) :=
    getElem?_callers_run (getElem?_callers_advance_self hclearing) (hspares t₂ (by simp))
  have hredirecting : (looked.run t₃).callers[caller]? =
      some (.exchange goal (.redirecting replay said (cleared.run t₂).store.generation)) :=
    getElem?_callers_run (getElem?_callers_advance_self hcleared) (hspares t₃ (by simp))
  refine ⟨session_advance_clearing hclearing m₁,
    congrArg Console.redirector (advance_of_getElem? hredirecting), ?_⟩
  cases hfirst : mark.1 with
  | true =>
    have hnavigating : (marked.run t₄).callers[caller]? =
        some (.exchange goal (.navigating said)) := by
      refine getElem?_callers_run ?_ (hspares t₄ (by simp))
      rw [getElem?_callers_advance_self hredirecting, stepActivity_redirecting_of_first hfirst]
    exact congrArg Console.redirector (advance_of_getElem? hnavigating)
  | false =>
    have hfinished : (marked.run t₄).callers[caller]? =
        some (.exchange goal (.finished (.error (.sessionExpired said)))) := by
      refine getElem?_callers_run ?_ (hspares t₄ (by simp))
      rw [getElem?_callers_advance_self hredirecting, stepActivity_redirecting_of_not_first hfirst]
    exact (congrArg Console.redirector (advance_of_getElem? hfinished)).trans rfl

/-- **Rejected replays.** When the replay of a request of the session's own scope is rejected, the
session is cleared and the user is sent to the login page, whatever session that is; so another
session is spared exactly if there is none. That is so too where others get between the answer and
what the caller makes of it: it is the session that is there when the caller clears it, and the user
is sent to the login page in the step after the one in which the redirector is told. -/
theorem rejected_replay_clears
    (hcaller : c.callers[caller]? = some (.exchange goal (.inFlight replay .primary)))
    (hretried : replay.retried = true) (hstatus : response.status.code = 401) :
    let answered := c.answer caller (.ok response)
    (∀ now,
      let d := answered.stretch now caller
      d.store.session = {} ∧
        d.redirector = (c.redirector.redirect replay c.store.generation).2 ∧
        (SparesOther replay c d ↔
          ∀ token, c.store.session.access = some token → replay.Carries token)) ∧
      ∀ (t₀ t₁ t₂ t₃ t₄ : List (Moment × Event)) (m₀ m₁ m₂ m₃ m₄ : Moment),
        (∀ t ∈ [t₀, t₁, t₂, t₃, t₄], ∀ x ∈ t, x.2.sparesCaller caller = true) →
        let decided := ((answered.run t₀).advance m₀ caller).run t₁
        let cleared := decided.advance m₁ caller
        let looked := (cleared.run t₂).advance m₂ caller
        let marked := (looked.run t₃).advance m₃ caller
        let redirected := (marked.run t₄).advance m₄ caller
        let mark := (looked.run t₃).redirector.mark replay (cleared.run t₂).store.generation
        cleared.store.session = {} ∧ marked.redirector = mark.2 ∧
          redirected.redirector =
            (if mark.1 then (marked.run t₄).redirector.navigate
            else (marked.run t₄).redirector) ∧
          (SparesOther replay decided cleared ↔
            ∀ token, decided.store.session.access = some token → replay.Carries token) := by
  intro answered
  have hanswered := answer_of_failure hcaller (Status.isSuccess_of_unauthorized hstatus)
  have hfailed : answered.callers[caller]? =
      some (.exchange goal (.failed replay .primary response)) := by
    refine (congrArg (·.callers[caller]?) hanswered).trans ?_
    exact List.getElem?_set_self (List.getElem?_eq_some_iff.mp hcaller).1
  refine ⟨fun now => ?_, fun t₀ t₁ t₂ t₃ t₄ m₀ m₁ m₂ m₃ m₄ hspares => ?_⟩
  · obtain ⟨hcleared, hredirected⟩ := stretch_of_rejected hfailed hretried hstatus now
    refine ⟨hcleared, hredirected.trans ?_, sparesOther_iff_of_cleared hcleared⟩
    rw [show answered = _ from hanswered]
  · have hstill := getElem?_callers_run hfailed (hspares t₀ (by simp))
    obtain ⟨hcleared, hmarked, hredirected⟩ := run_of_rejected hstill hretried hstatus
      (fun t ht => hspares t (List.mem_cons_of_mem _ ht)) m₀ m₁ m₂ m₃ m₄
    exact ⟨hcleared, hmarked, hredirected, sparesOther_iff_of_cleared hcleared⟩

end Rejected

/-- A request is rejected, the session is renewed, and the request is sent again. -/
def replayed : Console MemoryBackend :=
  signedIn.stretchRun <| List.map (default, ·)
    [ .start (.send .listing), .advance 0, .answer 0 (.ok .expired), .advance 0, .advanceCycle 0,
      .answerCycle 0 (.ok Renewal.grant), .advanceCycle 0, .advance 0 ]

/-- The replay, which carries the new token. -/
def secondListing : Request :=
  { Request.listing.withAuthorization "Bearer A2" with retried := true }

/-- A rejected replay ends the session that it was sent in, and no other. -/
theorem own_session_ends :
    SparesOther secondListing replayed
      ((replayed.answer 0 (.ok .expired)).stretch default 0) := by
  have hcaller : replayed.callers[0]? =
      some (.exchange .response (.inFlight secondListing .primary)) := by
    rw [replayed, signedIn, RouteTable.standard_eq]
    rfl
  have haccess : replayed.store.session.access = some "A2" := by
    rw [replayed, signedIn, RouteTable.standard_eq]
    rfl
  have hstatus : Response.expired.status.code = 401 := rfl
  obtain ⟨hatonce, -⟩ := rejected_replay_clears hcaller rfl hstatus
  refine (hatonce default).2.2.mpr fun token htoken => ?_
  rw [haccess] at htoken
  cases htoken
  rfl

/-- A session that was installed while the replay was on its way is lost to its rejection. -/
theorem newer_session_ends :
    let c := replayed.stretchRun <| List.map (default, ·)
      [ .start (.write (.setSession ⟨some "B1", some "R9"⟩)), .advance 1 ]
    let d := (c.answer 0 (.ok .expired)).stretch default 0
    c.Reachable ∧
      c.callers[0]? = some (.exchange .response (.inFlight secondListing .primary)) ∧
      c.store.session = ⟨some "B1", some "R9"⟩ ∧ c.redirector.navigations = 0 ∧
      d.store.session = {} ∧ d.redirector.navigations = 1 := by
  refine ⟨reachable_stretchRun (reachable_stretchRun ⟨_, _, [], rfl⟩ _) _, ?_⟩
  rw [replayed, signedIn, RouteTable.standard_eq]
  exact ⟨rfl, rfl, rfl, rfl, rfl⟩

end Console

end AdminConsole
