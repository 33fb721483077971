import AdminConsole.Proofs.Console.BlankTokens
import AdminConsole.Proofs.Console.NewerSession

/-!
# Requests that ask for no credential

A request may ask that no credential be attached to it (`Options.bypassAuth`), and none is. But what
becomes of a request that is rejected is decided without a look at that wish: one of the session's
own scope is recovered from like any other, and is then sent again with a token of the session.

`Exchange.Unattached` follows a request from which everything is kept off that would be attached.
It is sent as it was built, and once more at most, with an access token that the store holds by then
or that a cycle tells. What a cycle tells it has put into the store before (`Console.TellsOnly`), so
every token that such a request is ever sent with was the access token of the store at some point of
the run (`Console.HasHeld`).
-/

namespace AdminConsole

open HeaderValue AdminConsole.Text AdminConsole.Time

/-! ### Tokens that the store has held -/

/-- The access token that a cycle has put into the store. -/
def CycleStage.installed? : CycleStage → Option String
  | .written (.ok token) | .released (.ok token) | .settled (.ok token) => some token
  | .ready | .inFlight | .answered _ | .written (.error _) | .released (.error _)
  | .settled (.error _) | .dead => none

/-- A cycle that tells a token has made it the access token. -/
theorem Store.access_settle_of_ok {β : Type} [Backend β] {s : Store β} {now : Moment}
    {used token : String} {tokens : Except RenewalFailure RenewedTokens}
    (hclean : (CycleStage.answered tokens).HasNoBlank)
    (htold : (s.settle now used tokens).1 = .ok token) :
    (s.settle now used tokens).2.session.access = some token := by
  by_cases hheld : s.session.refresh = some used
  · rw [outcome_settle_of_holds hheld] at htold
    rw [session_settle_of_holds hheld]
    cases tokens with
    | ok tokens =>
      obtain rfl : tokens.access = token := Except.ok.inj htold
      rw [settled, renewed_of_holds hheld (hclean tokens.access rfl)]
    | error failure => cases htold
  · cases tokens with
    | ok tokens =>
      rw [outcome_settle_of_not_holds hheld] at htold
      cases htold
    | error failure => cases htold

namespace Console

variable {β : Type} {c : Console β} {P : String → Prop}

/-- Every token that a cycle has put into the store is like this. -/
def TellsOnly (P : String → Prop) (c : Console β) : Prop :=
  ∀ (id : CycleId) (cycle : Cycle) (token : String),
    c.cycles[id]? = some cycle → cycle.stage.installed? = some token → P token

theorem TellsOnly.of_outcome (h : c.TellsOnly P) {id : CycleId} {token : String}
    (houtcome : c.outcome? id = some (.ok token)) : P token := by
  obtain ⟨⟨used, stage⟩, hid, htold⟩ := Option.bind_eq_some_iff.mp houtcome
  cases stage with
  | settled outcome =>
    obtain rfl : outcome = .ok token := Option.some.inj htold
    exact h id _ token hid rfl
  | _ => cases htold

variable [Backend β]

/-- The access token of the store was this one at some point of the run. -/
def HasHeld (c : Console β) (s : List (Moment × Event)) (token : String) : Prop :=
  ∃ t, t <+: s ∧ (c.run t).store.get .access = some token

/-- What a cycle tells after an event it has told before, or has just made the access token. -/
theorem TellsOnly.step (h : c.TellsOnly P) (hclean : c.TellsNoBlank) (now : Moment) (e : Event)
    (hheld : ∀ token, (c.step now e).store.get .access = some token → P token) :
    (c.step now e).TellsOnly P := by
  intro id cycle token hid htold
  cases movedCycle_of_getElem? hid with
  | fresh refreshToken => cases htold
  | stayed hbefore => exact h id cycle token hbefore htold
  | @stepped cycle hbefore he =>
    obtain ⟨used, stage⟩ := cycle
    subst he
    cases stage with
    | answered tokens =>
      simp only [stepCycle_answered] at htold
      have hok : (c.store.settle now used tokens).1 = .ok token := by
        cases hsettled : (c.store.settle now used tokens).1 with
        | ok told =>
          rw [hsettled] at htold
          exact congrArg Except.ok (Option.some.inj htold)
        | error failure =>
          rw [hsettled] at htold
          cases htold
      refine hheld token ?_
      rw [Console.step, advanceCycle_answered now hbefore]
      exact Store.access_settle_of_ok (hclean _ (List.mem_of_getElem? hbefore)) hok
    | written outcome => exact h id _ token hbefore (by cases outcome <;> exact htold)
    | released outcome => exact h id _ token hbefore (by cases outcome <;> exact htold)
    | settled outcome => exact h id _ token hbefore htold
    | _ => cases htold
  | answered result hbefore he => cases htold
  | killed hbefore he => cases htold

/-- From here on only tokens like this can be found, in the store or because a cycle tells them. -/
structure Offers (P : String → Prop) (c : Console β) (s : List (Moment × Event)) : Prop where
  clean : c.TellsNoBlank
  tells : c.TellsOnly P
  held : ∀ t, t <+: s → ∀ token, (c.run t).store.get .access = some token → P token

theorem Offers.of_finds {s : List (Moment × Event)} (h : c.Offers P s) {x : Exchange}
    {request : Request} {scope : Scope} {token : String} (hfinds : x.Finds c request scope token) :
    P token := by
  rcases hfinds.access_or_told with haccess | ⟨id, htold⟩
  · exact h.held [] List.nil_prefix token haccess
  · exact h.tells.of_outcome htold

theorem Offers.next {now : Moment} {e : Event} {s : List (Moment × Event)}
    (h : c.Offers P ((now, e) :: s)) : (c.step now e).Offers P s := by
  have hlater : ∀ t, t <+: s → ∀ token,
      ((c.step now e).run t).store.get .access = some token → P token :=
    fun t ht => h.held ((now, e) :: t) (List.cons_prefix_cons.mpr ⟨rfl, ht⟩)
  exact ⟨h.clean.step now e, h.tells.step h.clean now e (hlater [] List.nil_prefix), hlater⟩

theorem Offers.run {s t : List (Moment × Event)} (h : c.Offers P (s ++ t)) :
    (c.run s).Offers P t := by
  induction s generalizing c with
  | nil => exact h
  | cons x rest ih => exact ih h.next

/-- A console that has just been opened offers what its store will have held. -/
theorem offers_opened (routes : RouteTable) (store : Store β) (s : List (Moment × Event)) :
    (opened routes store).Offers ((opened routes store).HasHeld s) s where
  clean _ h := absurd h List.not_mem_nil
  tells _ _ _ h := by cases h
  held t ht _ haccess := ⟨t, ht, haccess⟩

end Console

/-! ### What is sent of a request -/

/-- The request has been sent and has got this answer, and nothing else has been sent. -/
structure Request.AnsweredOnce (asked : Request) (response : Response) (done : List Deed) :
    Prop where
  first : [.sent asked, .answered (.ok response)] <+: done
  sent : done.filterMap Deed.request? = [asked]

/-- A request was rejected and is sent again, with a token like this. -/
structure Request.Resent (asked : Request) (scope : Scope) (P : String → Prop)
    (response : Response) (replay : Request) : Prop where
  calls : asked.CallsForRenewal scope response
  replay : ∃ token, P token ∧ asked.replayWith? token = some replay

/-- What a caller does for a request as it was built: it sends it, and once more at most, with a
token like this. -/
inductive Request.SentBare (asked : Request) (scope : Scope) (P : String → Prop)
    (done : List Deed) : Prop
  | unsent (hsent : done.filterMap Deed.request? = [])
  | once (hsent : done.filterMap Deed.request? = [asked])
  | twice {response : Response} {replay : Request}
      (hresent : asked.Resent scope P response replay)
      (hfirst : [.sent asked, .answered (.ok response)] <+: done)
      (hsent : done.filterMap Deed.request? = [asked, replay])

section Deeds

variable {asked : Request} {scope : Scope} {P : String → Prop} {response : Response}
  {done more : List Deed}

theorem Request.AnsweredOnce.append (h : asked.AnsweredOnce response done)
    (hmore : more.filterMap Deed.request? = []) : asked.AnsweredOnce response (done ++ more) where
  first := h.first.trans (List.prefix_append done more)
  sent := by rw [List.filterMap_append, h.sent, hmore, List.append_nil]

theorem Request.SentBare.append (h : asked.SentBare scope P done)
    (hmore : more.filterMap Deed.request? = []) : asked.SentBare scope P (done ++ more) := by
  have hsame : (done ++ more).filterMap Deed.request? = done.filterMap Deed.request? := by
    rw [List.filterMap_append, hmore, List.append_nil]
  cases h with
  | unsent hsent => exact .unsent (hsame.trans hsent)
  | once hsent => exact .once (hsame.trans hsent)
  | twice hresent hfirst hsent =>
    exact .twice hresent (hfirst.trans (List.prefix_append done more)) (hsame.trans hsent)

/-- What is sent, written out. -/
theorem Request.SentBare.sent_eq (h : asked.SentBare scope P done) :
    done.filterMap Deed.request? = [] ∨ done.filterMap Deed.request? = [asked] ∨
      ∃ response token,
        [.sent asked, .answered (.ok response)] <+: done ∧
        asked.CallsForRenewal scope response ∧ P token ∧
        done.filterMap Deed.request? =
          [asked, { asked.withAuthorization (bearerScheme ++ token) with retried := true }] := by
  cases h with
  | unsent hsent => exact .inl hsent
  | once hsent => exact .inr (.inl hsent)
  | twice hresent hfirst hsent =>
    obtain ⟨hcalls, token, htoken, hreplay⟩ := hresent
    rw [Request.eq_of_replayWith? hreplay] at hsent
    exact .inr (.inr ⟨_, token, hfirst, hcalls, htoken, hsent⟩)

/-- The tunnel token is that of the request as it was built. -/
theorem Request.SentBare.tunnelToken_eq (h : asked.SentBare scope P done) :
    ∀ r ∈ done.filterMap Deed.request?, r.headers.tunnelToken = asked.headers.tunnelToken := by
  intro r hr
  rcases h.sent_eq with hsent | hsent | ⟨response, token, -, -, -, hsent⟩ <;> rw [hsent] at hr
  · cases hr
  · rw [List.mem_singleton.mp hr]
  · rcases List.mem_cons.mp hr with rfl | hr
    · rfl
    · rw [List.mem_singleton.mp hr]
      rfl

end Deeds

namespace Exchange

/-- Where a request stands to which nothing is attached, and what its caller has done for it. -/
inductive Unattached (asked : Request) (scope : Scope) (P : String → Prop) :
    Exchange → List Deed → Prop
  | fresh : Unattached asked scope P (.preparing asked scope []) []
  | awaiting : Unattached asked scope P (.inFlight asked scope) [.sent asked]
  | failed {response : Response} {done : List Deed} (hdone : asked.AnsweredOnce response done) :
      Unattached asked scope P (.failed asked scope response) done
  | joining {response : Response} {done : List Deed} (hdone : asked.AnsweredOnce response done)
      (hcalls : asked.CallsForRenewal scope response) :
      Unattached asked scope P (.joining asked scope response) done
  | waiting {response : Response} {done : List Deed} (id : CycleId)
      (hdone : asked.AnsweredOnce response done) (hcalls : asked.CallsForRenewal scope response) :
      Unattached asked scope P (.waiting asked scope response id) done
  | reconsidering {response : Response} {done : List Deed}
      (hdone : asked.AnsweredOnce response done) :
      Unattached asked scope P (.reconsidering asked scope response) done
  | replaying {response : Response} {replay : Request} {done : List Deed}
      (hdone : asked.AnsweredOnce response done)
      (hresent : asked.Resent scope P response replay) :
      Unattached asked scope P (.preparing replay scope []) done
  | replayed {replay : Request} {done : List Deed} (hretried : replay.retried = true)
      (hdone : asked.SentBare scope P done) : Unattached asked scope P (.inFlight replay scope) done
  | refused {replay : Request} {done : List Deed} (last : Response)
      (hretried : replay.retried = true) (hdone : asked.SentBare scope P done) :
      Unattached asked scope P (.failed replay scope last) done
  | closing {x : Exchange} {done : List Deed} (hx : x.isClosing = true)
      (hdone : asked.SentBare scope P done) : Unattached asked scope P x done

variable {asked : Request} {scope : Scope} {P : String → Prop} {x y : Exchange} {done : List Deed}

theorem unattached_start {routes : RouteTable} (hbypass : asked.options.bypassAuth = true) :
    (start routes asked).Unattached asked (routes.classify asked.path) P [] := by
  rw [start, Attachment.plan, if_pos hbypass]
  exact .fresh

theorem Unattached.sentBare (h : x.Unattached asked scope P done) :
    asked.SentBare scope P done := by
  cases h with
  | fresh => exact .unsent rfl
  | awaiting => exact .once rfl
  | failed hdone => exact .once hdone.sent
  | joining hdone hcalls => exact .once hdone.sent
  | waiting id hdone hcalls => exact .once hdone.sent
  | reconsidering hdone => exact .once hdone.sent
  | replaying hdone hresent => exact .once hdone.sent
  | replayed hretried hdone => exact hdone
  | refused last hretried hdone => exact hdone
  | closing hx hdone => exact hdone

/-- A request that failed for the first time was sent once. -/
theorem Unattached.sent_of_failed {request : Request} {s : Scope} {response : Response}
    (h : Unattached asked scope P (.failed request s response) done)
    (hfirst : request.retried = false) :
    request = asked ∧ done.filterMap Deed.request? = [asked] := by
  cases h with
  | failed hdone => exact ⟨rfl, hdone.sent⟩
  | refused last hretried hdone => exact absurd (hretried.symm.trans hfirst) (by decide)
  | closing hx hdone => cases hx

theorem Unattached.answer (h : x.Unattached asked scope P done)
    (result : Except ApiError Response) :
    (x.answer result).Unattached asked scope P (done ++ (x.answered? result).toList) := by
  have hsame : x.Unattached asked scope P (done ++ []) := (List.append_nil done).symm ▸ h
  have hclosed : ∀ {r}, (finished r).Unattached asked scope P (done ++ [.answered result]) :=
    .closing rfl (h.sentBare.append rfl)
  cases h with
  | awaiting =>
    cases result with
    | error e => exact hclosed
    | ok response =>
      simp only [Exchange.answer, Exchange.answered?]
      split
      · exact hclosed
      · exact .failed ⟨List.prefix_refl _, rfl⟩
  | replayed hretried hdone =>
    cases result with
    | error e => exact hclosed
    | ok response =>
      simp only [Exchange.answer, Exchange.answered?]
      split
      · exact hclosed
      · exact .refused response hretried (hdone.append rfl)
  | closing hx hdone =>
    cases x with
    | inFlight request scope => cases hx
    | _ => exact hsame
  | _ => exact hsame

section Steps

variable {β : Type} {c : Console β}

/-- A request that has found a token is the one that was rejected, and is sent again. -/
theorem Unattached.resent (h : x.Unattached asked scope P done) {request replay : Request}
    {s : Scope} {token : String} (hfinds : x.Finds c request s token) (htoken : P token)
    (hreplay : request.replayWith? token = some replay) :
    s = scope ∧ ∃ response, asked.AnsweredOnce response done ∧
      asked.Resent scope P response replay := by
  cases hfinds with
  | @stored response hdecision =>
    have hcalls : request.CallsForRenewal s response :=
      FailureContext.callsForRenewal_of_sendsAgain (by rw [← decision, hdecision]; rfl)
    cases h with
    | failed hdone => exact ⟨rfl, response, hdone, hcalls, token, htoken, hreplay⟩
    | refused last hretried hdone =>
      exact absurd (hretried.symm.trans hcalls.recoverable.unsent) (by decide)
    | closing hx hdone => cases hx
  | @joined response hjoined =>
    cases h with
    | joining hdone hcalls => exact ⟨rfl, response, hdone, hcalls, token, htoken, hreplay⟩
    | closing hx hdone => cases hx
  | @told response id houtcome =>
    cases h with
    | waiting id hdone hcalls => exact ⟨rfl, response, hdone, hcalls, token, htoken, hreplay⟩
    | closing hx hdone => cases hx

variable [Backend β]

/-- **Steps of a request.** -/
theorem Unattached.stepsTo (h : x.Unattached asked scope P done) (hstep : x.StepsTo c y)
    (hfound : ∀ {request s token}, x.Finds c request s token → P token) :
    y.Unattached asked scope P (done ++ x.deed?.toList) := by
  have hclosed : x.deed?.bind Deed.request? = none → y.isClosing = true →
      y.Unattached asked scope P (done ++ x.deed?.toList) := by
    intro hsends hy
    refine .closing hy (h.sentBare.append ?_)
    cases hdeed : x.deed? with
    | none => rfl
    | some deed =>
      rw [hdeed] at hsends
      exact List.filterMap_cons_none hsends
  cases hstep with
  | replayed hfinds hreplay =>
    obtain ⟨rfl, response, hdone, hresent⟩ := h.resent hfinds (hfound hfinds) hreplay
    refine .replaying (hdone.append ?_) hresent
    cases hfinds <;> rfl
  | sent request scope =>
    cases h with
    | fresh => exact .awaiting
    | replaying hdone hresent =>
      obtain ⟨token, -, hreplay⟩ := hresent.replay
      refine .replayed (Request.retried_of_replayWith? hreplay) (.twice hresent ?_ ?_)
      · exact hdone.first.trans (List.prefix_append done _)
      · rw [List.filterMap_append, hdone.sent]
        rfl
    | closing hx hdone => cases hx
  | awaits request scope => exact (List.append_nil done).symm ▸ h
  | recovers hdecision =>
    have hcalls := FailureContext.callsForRenewal_of_decide hdecision
    cases h with
    | failed hdone => exact .joining (hdone.append rfl) hcalls
    | refused last hretried hdone =>
      exact absurd (hretried.symm.trans hcalls.recoverable.unsent) (by decide)
    | closing hx hdone => cases hx
  | joins scope response hjoined =>
    cases h with
    | joining hdone hcalls => exact .waiting _ (hdone.append rfl) hcalls
    | closing hx hdone => cases hx
  | refused scope response hjoined =>
    cases h with
    | joining hdone hcalls => exact .reconsidering (hdone.append rfl)
    | closing hx hdone => cases hx
  | waits request scope response houtcome => exact (List.append_nil done).symm ▸ h
  | failed request scope response houtcome =>
    cases h with
    | waiting id hdone hcalls => exact .reconsidering (hdone.append rfl)
    | closing hx hdone => cases hx
  | replaced scope response hreplaced =>
    cases h with
    | reconsidering hdone => exact .failed (hdone.append rfl)
    | closing hx hdone => cases hx
  | attached request scope a rest hfailure =>
    cases h with
    | closing hx hdone => cases hx
  | unreplayable hfinds hreplay => exact hclosed (by cases hfinds <;> rfl) rfl
  | _ => exact hclosed rfl rfl

end Steps

end Exchange

/-! ### What a caller sends -/

/-- Where a caller stands to whose request nothing is attached, and what it has done. -/
inductive Activity.Unattached (asked : Request) (scope : Scope) (P : String → Prop) :
    Activity → List Deed → Prop
  | within {x : Exchange} {done : List Deed} (hx : x.Unattached asked scope P done) :
      Unattached asked scope P (.exchange .response x) done
  | past {a : Activity} {done : List Deed} (ha : a.isPast = true)
      (hdone : asked.SentBare scope P done) : Unattached asked scope P a done

theorem Activity.Unattached.sentBare {asked : Request} {scope : Scope} {P : String → Prop}
    {a : Activity} {done : List Deed} (h : a.Unattached asked scope P done) :
    asked.SentBare scope P done := by
  cases h with
  | within hx => exact hx.sentBare
  | past ha hdone => exact hdone

namespace Console

variable {β : Type} {c : Console β} {caller : Nat} {asked : Request} {scope : Scope}
  {P : String → Prop} {a b : Activity} {done : List Deed}

variable [Backend β]

/-- **Steps of a caller.** -/
theorem unattached_of_onward (h : a.Unattached asked scope P done)
    (ha : c.callers[caller]? = some a) {now : Moment} {e : Event}
    (hmove : Onward now e caller c a b)
    (hfound : ∀ {x : Exchange} {request s token}, x.Finds c request s token → P token) :
    b.Unattached asked scope P (done ++ (c.deed? caller e).toList) := by
  cases hmove with
  | stayed he hdeed =>
    rw [hdeed, Option.toList_none, List.append_nil]
    exact h
  | stepped he =>
    rw [he, deed?_advance ha]
    cases h with
    | @within x done hx =>
      by_cases hover : ∃ result, x = .finished result
      · obtain ⟨result, rfl⟩ := hover
        exact .past (Activity.isPast_next .response result) (hx.sentBare.append rfl)
      · rw [stepActivity_exchange now caller .response c (not_exists.mp hover)]
        exact .within (hx.stepsTo (Exchange.stepsTo_stepExchange now caller x c) hfound)
    | past hpast hdone =>
      rw [Activity.deed?_of_isPast hpast]
      exact .past (Activity.isPast_stepActivity hpast now caller c) (hdone.append rfl)
  | answered result he =>
    rw [he, deed?_answer ha]
    cases h with
    | within hx => exact .within (hx.answer result)
    | past hpast hdone => cases hpast
  | left he =>
    rw [he]
    exact .past rfl (h.sentBare.append rfl)

/-- **Runs of a caller.** -/
theorem unattached_run {s : List (Moment × Event)} (h : a.Unattached asked scope P done)
    (ha : c.callers[caller]? = some a) (hoffers : c.Offers P s) :
    ∃ b, (c.run s).callers[caller]? = some b ∧
      b.Unattached asked scope P (done ++ c.deeds caller s) := by
  induction s generalizing c a done with
  | nil => exact ⟨a, ha, (List.append_nil done).symm ▸ h⟩
  | cons x rest ih =>
    obtain ⟨now, e⟩ := x
    obtain ⟨b, hb, hmove⟩ := exists_onward ha now e
    rw [deeds, ← List.append_assoc]
    exact ih (unattached_of_onward h ha hmove hoffers.of_finds) hb hoffers.next

/-- A rejected request is sent again in two steps if the session holds another token, whoever gets
between the two. -/
theorem sentBy_of_replaced {goal : Goal} {response : Response} {token : String} {replay : Request}
    (ha : c.callers[caller]? = some (.exchange goal (.failed asked .primary response)))
    (hfirst : asked.IsRecoverable) (hstatus : response.status.code = 401)
    (hreplaced : replacement? c.store.session.access asked.bearer = some token)
    (hreplay : asked.replayWith? token = some replay) {t : List (Moment × Event)}
    (ht : ∀ x ∈ t, x.2.sparesCaller caller = true) (m₀ m₁ : Moment) :
    (((c.advance m₀ caller).run t).advance m₁ caller).sentBy caller =
      c.sentBy caller ++ [replay] := by
  have hdecided : (c.advance m₀ caller).callers[caller]? =
      some (.exchange goal (.preparing replay .primary [])) := by
    rw [getElem?_callers_advance_self ha,
      stepActivity_failed_of_replaced hfirst hstatus hreplaced, Exchange.replay, hreplay]
  have hstill := getElem?_callers_run hdecided ht
  calc (((c.advance m₀ caller).run t).advance m₁ caller).sentBy caller
      = ((c.advance m₀ caller).run t).sentBy caller ++ [replay] := by
        have hsent := sentBy_step m₁ (.advance caller) caller ((c.advance m₀ caller).run t)
        rwa [deed?_advance hstill] at hsent
    _ = (c.advance m₀ caller).sentBy caller ++ [replay] := by
        rw [sentBy_run, deeds_of_spares ht, List.filterMap_nil, List.append_nil]
    _ = c.sentBy caller ++ [replay] := by
        have hlooked := sentBy_step m₀ (.advance caller) caller c
        rw [deed?_advance ha] at hlooked
        exact congrArg (· ++ [replay]) (hlooked.trans (List.append_nil _))

/-- **Requests that ask for no credential.** They are sent as they were built, the first time. A
second time comes at most if the request is one of the session's own scope, was not sent again
before, does not itself renew the session, and is rejected with status 401: then it is sent with a
token that was the access token of the store at some point of the run, and is otherwise as it was,
but for the mark. And it does come whenever the caller, looking at the session after that, finds an
access token other than the one that the request was built with. -/
theorem bypassing_request_sent (routes : RouteTable) (store : Store β)
    (past : List (Moment × Event)) (now : Moment) {asked : Request}
    (hbypass : asked.options.bypassAuth = true) (future : List (Moment × Event)) :
    let first := opened routes store
    let caller := (first.run past).callers.length
    let started := (first.run past).step now (.start (.send asked))
    let c := started.run future
    let again token := { asked.withAuthorization (bearerScheme ++ token) with retried := true }
    (∀ r ∈ c.sentBy caller, r.headers.tunnelToken = asked.headers.tunnelToken) ∧
    (c.sentBy caller = [] ∨ c.sentBy caller = [asked] ∨
      ∃ response token,
        [.sent asked, .answered (.ok response)] <+: started.deeds caller future ∧
        asked.CallsForRenewal (routes.classify asked.path) response ∧
        first.HasHeld (past ++ (now, .start (.send asked)) :: future) token ∧
        c.sentBy caller = [asked, again token]) ∧
    ∀ response token,
      c.callers[caller]? = some (.exchange .response (.failed asked .primary response)) →
      response.status.code = 401 → asked.IsRecoverable →
      replacement? (c.store.get .access) asked.bearer = some token → isValid token = true →
      ∀ t m₀ m₁, (∀ x ∈ t, x.2.sparesCaller caller = true) →
        (((c.advance m₀ caller).run t).advance m₁ caller).sentBy caller = [asked, again token] := by
  intro first caller started c again
  have hroutes : (first.run past).routes = routes := routes_run first past
  have hstarted : started.callers[caller]? = some (.exchange .response (.start routes asked)) := by
    rw [← hroutes]
    exact List.getElem?_concat_length
  have hoffers : started.Offers (first.HasHeld (past ++ (now, .start (.send asked)) :: future))
      future := (offers_opened routes store _).run.next
  obtain ⟨a, ha, hunattached⟩ := unattached_run
    (.within (Exchange.unattached_start hbypass)) hstarted hoffers
  rw [List.nil_append] at hunattached
  have hnone : started.sentBy caller = [] :=
    Reachable.unsent ⟨routes, store, past, rfl⟩ caller (Nat.le_refl _)
  have hsent : c.sentBy caller = (started.deeds caller future).filterMap Deed.request? := by
    rw [sentBy_run, hnone, List.nil_append]
  refine ⟨?_, ?_, ?_⟩
  · rw [hsent]
    exact hunattached.sentBare.tunnelToken_eq
  · rw [hsent]
    exact hunattached.sentBare.sent_eq
  · intro response token hfailed hstatus hfirst hreplaced hvalid t m₀ m₁ ht
    obtain rfl : a = .exchange .response (.failed asked .primary response) :=
      Option.some.inj (ha.symm.trans hfailed)
    have honce : c.sentBy caller = [asked] := by
      rw [hsent]
      cases hunattached with
      | within hx => exact (hx.sent_of_failed hfirst.unsent).2
      | past hpast hdone => cases hpast
    have hreplay : asked.replayWith? token = some (again token) := by
      rw [Request.replayWith?_eq, if_pos hvalid]
    rw [sentBy_of_replaced hfailed hfirst hstatus hreplaced hreplay ht m₀ m₁, honce]
    rfl

/-- A request of the session's own scope that asks for no credential. -/
def bareListing : Request := { Request.listing with options := { bypassAuth := true } }

/-- The request as it is sent again with the token of the session. -/
def replayedListing : Request :=
  { bareListing.withAuthorization "Bearer A1" with retried := true }

/-- The request is sent and rejected, and sent again. -/
theorem bypassing_request_sent_again :
    let c := (guarded.step default (.start (.send bareListing))).run
      [(default, .advance 0), (default, .answer 0 (.ok .expired))]
    bareListing.options.bypassAuth = true ∧ c.sentBy 0 = [bareListing] ∧
      ((c.advance default 0).advance default 0).sentBy 0 = [bareListing, replayedListing] := by
  intro c
  have hbypass : bareListing.options.bypassAuth = true := rfl
  have hfailed : c.callers[0]? =
      some (.exchange .response (.failed bareListing .primary .expired)) := rfl
  have hfirst : bareListing.IsRecoverable := ⟨rfl, by decide⟩
  have hreplaced : replacement? (c.store.get .access) bareListing.bearer = some "A1" := rfl
  have hvalid : isValid "A1" = true := by decide
  obtain ⟨-, -, hagain⟩ := bypassing_request_sent ⟨[]⟩ (.inMemory ⟨some "A1", some "R1"⟩) []
    default hbypass [(default, .advance 0), (default, .answer 0 (.ok .expired))]
  have hsent := hagain .expired "A1" hfailed rfl hfirst hreplaced hvalid [] default default
    fun _ hx => absurd hx List.not_mem_nil
  exact ⟨hbypass, rfl, hsent⟩

/-- Somebody is signed in, and a request that asks for no credential is rejected. It is sent again
with the access token. -/
theorem bypassing_request_given_token :
    let c := signedIn.run <| List.map (default, ·)
      [ .start (.send bareListing), .advance 0, .answer 0 (.ok .expired), .advance 0, .advance 0 ]
    c.Reachable ∧ bareListing.options.bypassAuth = true ∧
      c.sentBy 0 = [bareListing, replayedListing] ∧
      ¬ ∀ r ∈ c.sentBy 0, r.headers.authorization = bareListing.headers.authorization := by
  intro c
  have hsent : c.sentBy 0 = [bareListing, replayedListing] := by
    simp only [c, signedIn, RouteTable.standard_eq]
    rfl
  have hreachable : c.Reachable := Reachable.run ⟨_, _, [], rfl⟩ _
  refine ⟨hreachable, rfl, hsent, fun hsame => ?_⟩
  have hreplayed := hsame replayedListing (hsent ▸ List.mem_cons_of_mem _ List.mem_cons_self)
  cases hreplayed

end Console

end AdminConsole
