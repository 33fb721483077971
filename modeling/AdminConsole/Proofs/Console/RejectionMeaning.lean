import AdminConsole.Proofs.Console.SparedSession
import AdminConsole.Proofs.Console.Writes
import Mathlib.Data.List.Induction

/-!
# What a rejection means to the caller

The error that a caller gets is made from a response in five places, some of them reached only after
a cycle was waited for or after the session was looked at again. `Exchange.Heard` keeps, for every
place at which a request may stand, which answer the caller has heard last and what that answer
still can come to. Two facts carry the induction. A request that goes on after status 401 is one of
the session's own scope, so that at all other scopes no request is ever sent twice
(`Request.IsFor.unsent`); and a request that is sent again is sent to where the first one was.

Only one who is about to clear the session comes to say that it has expired. So when that is said,
the session was cleared after the last answer, by the very caller that says it
(`Console.GaveUp`). It is still empty unless somebody else has installed a session in the meantime,
which can be done between two steps of one stretch (`newer_session_outlives_rejection`).
-/

namespace AdminConsole

open AdminConsole.Time HeaderValue

/-! ### The meaning of a rejection -/

/-- **Meaning of a rejection.** The error that status 401 stands for, at a scope: a rejected tunnel
credential names its scope; where nothing is attached there is nothing to expire, unless it is the
renewal that was rejected; and everything else is the end of the session. -/
def Request.rejection (asked : Request) (scope : Scope) (said : String) : ApiError :=
  match scope with
  | .tunnelClientOrServer | .tunnelGeneric => .scopeUnauthorized scope said
  | .unscoped =>
    if asked.route = Endpoint.renewal then .sessionExpired said else .unauthorized said
  | .primary => .sessionExpired said

/-- The error says that a credential was rejected. -/
def ApiError.isRejection : ApiError → Bool
  | .sessionExpired _ | .scopeUnauthorized _ _ | .unauthorized _ => true
  | _ => false

/-- No other status is taken for a rejection. -/
theorem ApiError.isRejection_ofResponse {response : Response} (h : response.status.code ≠ 401) :
    (ofResponse response).isRejection = false := by
  simp only [ofResponse, if_neg h]
  repeat' split
  all_goals rfl

/-- The last answer that a caller has got. -/
def lastAnswer (deeds : List Deed) : Option (Except ApiError Response) :=
  (deeds.filterMap Deed.answer?).getLast?

theorem lastAnswer_append_answered (done : List Deed) (result : Except ApiError Response) :
    lastAnswer (done ++ [.answered result]) = some result := by
  rw [lastAnswer, List.filterMap_append]
  exact List.getLast?_concat

/-- What is no answer does not count. -/
theorem lastAnswer_append_of_none {more : List Deed} (h : more.filterMap Deed.answer? = [])
    (done : List Deed) : lastAnswer (done ++ more) = lastAnswer done := by
  rw [lastAnswer, List.filterMap_append, h, List.append_nil, lastAnswer]

/-- Nothing that a request does by itself is an answer. -/
theorem Exchange.filterMap_answer?_deed? (x : Exchange) :
    x.deed?.toList.filterMap Deed.answer? = [] := by
  cases x with
  | preparing request scope todo => cases todo <;> rfl
  | _ => rfl

/-- **What the caller gets**, given the last answer that it has heard. -/
inductive Request.Told (asked : Request) (scope : Scope) :
    Option (Except ApiError Response) → Except ApiError Response → Prop
  /-- The request was never sent. -/
  | unsendable (fault : RequestFault) : Told asked scope none (.error (.invalidRequest fault))
  | unreachable (e : ApiError) : Told asked scope (some (.error e)) (.error e)
  | served {response : Response} (hserved : response.status.isSuccess = true) :
      Told asked scope (some (.ok response)) (.ok response)
  | failed {response : Response} (hfailed : response.status.isSuccess = false)
      (hcode : response.status.code ≠ 401) :
      Told asked scope (some (.ok response)) (.error (.ofResponse response))
  | rejected {response : Response} (hcode : response.status.code = 401) :
      Told asked scope (some (.ok response))
        (.error (asked.rejection scope (ApiError.saidIn response.body)))
  /-- The token that was to take the place of the rejected one cannot be sent. -/
  | unreplayable {response : Response} (hcode : response.status.code = 401)
      (hscope : scope = .primary) {token : String} (htoken : isValid token = false) :
      Told asked scope (some (.ok response))
        (.error (.invalidRequest .credentialNotHeaderValue))

/-- The request is under way on account of the one that was asked for, and outside the session's own
scope it was not sent before. -/
structure Request.IsFor (asked : Request) (scope : Scope) (request : Request) : Prop where
  stands : request.StandsFor asked
  unsent : scope ≠ .primary → request.retried = false

/-- The last answer was a rejection that means the end of the session, and this was its text. -/
structure Request.Ends (asked : Request) (scope : Scope)
    (last : Option (Except ApiError Response)) (said : String) : Prop where
  last : ∃ response, last = some (.ok response) ∧ response.status.code = 401 ∧
    ApiError.saidIn response.body = said
  means : asked.rejection scope said = .sessionExpired said

/-- The end of the session is what the caller is told. -/
theorem Request.Ends.told {asked : Request} {scope : Scope}
    {last : Option (Except ApiError Response)} {said : String} (h : asked.Ends scope last said) :
    asked.Told scope last (.error (.sessionExpired said)) := by
  obtain ⟨response, hlast, hcode, rfl⟩ := h.last
  exact hlast ▸ h.means ▸ .rejected hcode

namespace Exchange

/-- What a caller has heard last whose request stands somewhere. -/
inductive Heard (asked : Request) (scope : Scope) (last : Option (Except ApiError Response)) :
    Exchange → Prop
  | attaching {request : Request} (todo : List Attachment) (hfor : asked.IsFor scope request)
      (hlast : last = none) : Heard asked scope last (.preparing request scope todo)
  | replaying {request : Request} (hfor : asked.IsFor scope request) {response : Response}
      (hlast : last = some (.ok response)) (hcode : response.status.code = 401) :
      Heard asked scope last (.preparing request scope [])
  | awaiting {request : Request} (hfor : asked.IsFor scope request) :
      Heard asked scope last (.inFlight request scope)
  | failed {request : Request} {response : Response} (hfor : asked.IsFor scope request)
      (hlast : last = some (.ok response)) (hfailed : response.status.isSuccess = false) :
      Heard asked scope last (.failed request scope response)
  | joining {request : Request} {response : Response} (hfor : asked.IsFor scope request)
      (hlast : last = some (.ok response)) (hcalls : request.CallsForRenewal scope response) :
      Heard asked scope last (.joining request scope response)
  | waiting {request : Request} {response : Response} (id : CycleId)
      (hfor : asked.IsFor scope request) (hlast : last = some (.ok response))
      (hcalls : request.CallsForRenewal scope response) :
      Heard asked scope last (.waiting request scope response id)
  | reconsidering {request : Request} {response : Response} (hfor : asked.IsFor scope request)
      (hlast : last = some (.ok response)) (hcalls : request.CallsForRenewal scope response) :
      Heard asked scope last (.reconsidering request scope response)
  | dropping {response : Response} (hlast : last = some (.ok response))
      (hcode : response.status.code = 401) (hscope : scope = .tunnelClientOrServer) :
      Heard asked scope last (.droppingPeer (scopeFailure scope (.ofResponse response)))
  | clearing {request : Request} {said : String} (hends : asked.Ends scope last said) :
      Heard asked scope last (.clearing request said)
  | cleared {request : Request} {said : String} (hends : asked.Ends scope last said) :
      Heard asked scope last (.cleared request said)
  | redirecting {request : Request} {said : String} (generation : Nat)
      (hends : asked.Ends scope last said) :
      Heard asked scope last (.redirecting request said generation)
  | navigating {said : String} (hends : asked.Ends scope last said) :
      Heard asked scope last (.navigating said)
  | told {result : Except ApiError Response} (htold : asked.Told scope last result) :
      Heard asked scope last (.finished result)

variable {asked request : Request} {scope : Scope} {last : Option (Except ApiError Response)}
  {x : Exchange}

theorem heard_start (routes : RouteTable) (hfresh : asked.retried = false) :
    Heard asked (routes.classify asked.path) none (start routes asked) :=
  .attaching _ ⟨⟨rfl, rfl⟩, fun _ => hfresh⟩ rfl

/-- What a failed request ends in is decided by the scope, and for a path without scope by the path
alone. -/
theorem rejection_eq_sessionExpired (hfor : asked.IsFor scope request)
    (hscope : scope = .primary ∨ scope = .unscoped ∧ ¬ request.IsRecoverable) (said : String) :
    asked.rejection scope said = .sessionExpired said := by
  rcases hscope with rfl | ⟨rfl, hnot⟩
  · rfl
  · have hunsent : request.retried = false := hfor.unsent nofun
    have hroute : asked.route = Endpoint.renewal := by
      by_contra hne
      refine hnot ⟨hunsent, fun heq => hne ?_⟩
      rwa [Request.route, hfor.stands.path] at heq
    exact if_pos hroute

/-- A request is sent again to where it was sent first. -/
theorem Heard.of_replay (hfor : asked.IsFor scope request) {response : Response}
    (hlast : last = some (.ok response)) (hcalls : request.CallsForRenewal scope response)
    {token : String} {r : Request} (hreplay : request.replayWith? token = some r) :
    Heard asked scope last (.preparing r scope []) := by
  refine .replaying ⟨?_, fun hne => absurd hcalls.scope hne⟩ hlast hcalls.status
  rw [Request.eq_of_replayWith? hreplay]
  exact ⟨hfor.stands.path, hfor.stands.silent⟩

/-- What was heard of the request that finds a token, and that it may be sent again. -/
theorem Heard.of_finds {β : Type} {c : Console β} {s : Scope} {token : String}
    (h : x.Heard asked scope last) (hfinds : x.Finds c request s token) :
    s = scope ∧ asked.IsFor scope request ∧
      ∃ response, last = some (.ok response) ∧ request.CallsForRenewal scope response := by
  cases hfinds with
  | @stored response hdecision =>
    cases h with
    | failed hfor hlast hfailed =>
      have hsends : (decision c request scope response).sendsAgain = true := by rw [hdecision]; rfl
      exact ⟨rfl, hfor, _, hlast, FailureContext.callsForRenewal_of_sendsAgain hsends⟩
  | joined hjoined =>
    cases h with
    | joining hfor hlast hcalls => exact ⟨rfl, hfor, _, hlast, hcalls⟩
  | told houtcome =>
    cases h with
    | waiting id hfor hlast hcalls => exact ⟨rfl, hfor, _, hlast, hcalls⟩

/-- The token that cannot be sent is the one that was found. -/
theorem isValid_of_replayWith?_eq_none {token : String}
    (h : request.replayWith? token = none) : isValid token = false := by
  rw [Request.replayWith?_eq] at h
  split at h
  · cases h
  · rename_i hnot
    exact Bool.eq_false_iff.mpr hnot

/-- The end of the session, as it is said to be by the response to a request. -/
theorem ends_of_unauthorized {response : Response} (hfor : asked.IsFor scope request)
    (hlast : last = some (.ok response)) (hcode : response.status.code = 401)
    (hscope : scope = .primary ∨ scope = .unscoped ∧ ¬ request.IsRecoverable) :
    asked.Ends scope last (ApiError.ofResponse response).said where
  last := ⟨response, hlast, hcode, (ApiError.said_ofResponse_of_unauthorized hcode).symm⟩
  means := rejection_eq_sessionExpired hfor hscope _

/-- **Answers.** -/
theorem Heard.answer {done : List Deed} (h : x.Heard asked scope (lastAnswer done))
    (result : Except ApiError Response) :
    (x.answer result).Heard asked scope
      (lastAnswer (done ++ (x.answered? result).toList)) := by
  have hsame : x.Heard asked scope (lastAnswer (done ++ [])) := (List.append_nil done).symm ▸ h
  cases h with
  | @awaiting request hfor =>
    have hlast : lastAnswer (done ++ [.answered result]) = some result :=
      lastAnswer_append_answered done result
    rw [answered?, Option.toList_some, hlast]
    cases result with
    | error e => exact .told (.unreachable e)
    | ok response =>
      simp only [Exchange.answer]
      cases hsuccess : response.status.isSuccess with
      | true => exact .told (.served hsuccess)
      | false => exact .failed hfor rfl hsuccess
  | _ => exact hsame

section Steps

variable {β : Type} {c : Console β}

/-- What is decided about a failed request, if it is not to be sent again. -/
theorem Heard.decided {response : Response} {d : AuthDecision} (hfor : asked.IsFor scope request)
    (hfailed : response.status.isSuccess = false) (hsends : d.sendsAgain = false)
    (hdecides : FailureContext.Decides request scope response d) :
    (Exchange.decided request scope response d).Heard asked scope (some (.ok response)) := by
  have htold : ∀ e, response.status.code = 401 →
      asked.rejection scope (ApiError.saidIn response.body) = e →
      (Exchange.finished (.error e)).Heard asked scope (some (.ok response)) :=
    fun e hcode heq => .told (heq ▸ .rejected hcode)
  cases hdecides with
  | otherwise hcode => exact .told (.failed hfailed hcode)
  | unguarded hcode hscope hrequest =>
    have hroute : asked.route ≠ Endpoint.renewal := by
      rw [Request.route, ← hfor.stands.path]
      exact hrequest.route_ne
    refine htold _ hcode ?_
    rw [ApiError.ofResponse_of_unauthorized hcode, hscope]
    exact if_neg hroute
  | peer hcode hscope => exact .dropping rfl hcode hscope
  | tunnel hcode hscope =>
    refine htold _ hcode ?_
    rw [scopeFailure, ApiError.said_ofResponse_of_unauthorized hcode, hscope]
    rfl
  | lost hcode hscope => exact .clearing (ends_of_unauthorized hfor rfl hcode hscope)
  | again hd hcalls =>
    rw [hd] at hsends
    cases hsends

/-- What is decided about a request that has failed for the caller. -/
theorem Heard.of_decision {s : Scope} {response : Response} {d : AuthDecision}
    (h : (Exchange.failed request s response).Heard asked scope last)
    (hdecision : decision c request s response = d) (hsends : d.sendsAgain = false) :
    (Exchange.decided request s response d).Heard asked scope last := by
  have hdecides := FailureContext.decides request s response c.store.session.access
    c.store.session.refresh
  rw [← decision, hdecision] at hdecides
  cases h with
  | failed hfor hlast hfailed => exact hlast ▸ .decided hfor hfailed hsends hdecides

/-- A request with a credential attached is still on account of the one that was asked for. -/
theorem isFor_attach (hfor : asked.IsFor scope request) (store : Store β) (a : Attachment) :
    asked.IsFor scope (a.attach store request).request where
  stands := by
    have hattach := Attachment.standsFor_attach store request a
    exact ⟨hattach.path.trans hfor.stands.path, hattach.silent.trans hfor.stands.silent⟩
  unsent hne := (Attachment.retried_attach store request a).trans (hfor.unsent hne)

/-- Who drops the peer is told what the rejection means for pass-through requests. -/
theorem told_of_peer {response : Response} (hcode : response.status.code = 401)
    (hscope : scope = .tunnelClientOrServer) :
    asked.Told scope (some (.ok response))
      (.error (scopeFailure scope (.ofResponse response))) := by
  have hmeans : asked.rejection scope (ApiError.saidIn response.body) =
      scopeFailure scope (.ofResponse response) := by
    rw [scopeFailure, ApiError.said_ofResponse_of_unauthorized hcode, hscope]
    rfl
  exact hmeans ▸ .rejected hcode

variable [Backend β]

/-- **Steps of a request.** -/
theorem Heard.step (h : x.Heard asked scope last) (now : Moment) (caller : Nat) :
    (c.stepExchange now caller x).1.Heard asked scope last := by
  generalize hy : (c.stepExchange now caller x).1 = y
  cases stepsTo_of_stepExchange hy with
  | sent request s =>
    cases h with
    | attaching todo hfor hlast => exact .awaiting hfor
    | replaying hfor hlast hcode => exact .awaiting hfor
  | attached request s a rest hfailure =>
    cases h with
    | attaching todo hfor hlast => exact .attaching _ (isFor_attach hfor c.store a) hlast
  | unsendable request s rest hfailure =>
    cases h with
    | attaching todo hfor hlast =>
      obtain ⟨fault, rfl⟩ := Attachment.exists_fault_of_failure hfailure
      exact .told (hlast ▸ .unsendable fault)
  | replayed hfinds hreplay =>
    obtain ⟨rfl, hfor, response, hlast, hcalls⟩ := h.of_finds hfinds
    exact .of_replay hfor hlast hcalls hreplay
  | unreplayable hfinds hreplay =>
    obtain ⟨rfl, hfor, response, hlast, hcalls⟩ := h.of_finds hfinds
    have htoken := isValid_of_replayWith?_eq_none hreplay
    exact .told (hlast ▸ .unreplayable hcalls.status hcalls.scope htoken)
  | propagates hdecision | leavesPeer hdecision | namesScope hdecision | givesUp hdecision =>
    exact h.of_decision hdecision rfl
  | recovers hdecision =>
    cases h with
    | failed hfor hlast hfailed =>
      exact .joining hfor hlast (FailureContext.callsForRenewal_of_decide hdecision)
  | joins s response hjoined =>
    cases h with
    | joining hfor hlast hcalls => exact .waiting _ hfor hlast hcalls
  | refused s response hjoined =>
    cases h with
    | joining hfor hlast hcalls => exact .reconsidering hfor hlast hcalls
  | failed request s response houtcome =>
    cases h with
    | waiting id hfor hlast hcalls => exact .reconsidering hfor hlast hcalls
  | replaced s response hreplaced =>
    cases h with
    | reconsidering hfor hlast hcalls =>
      exact .failed hfor hlast (Status.isSuccess_of_unauthorized hcalls.status)
  | lost s response hreplaced =>
    cases h with
    | reconsidering hfor hlast hcalls =>
      exact .clearing (ends_of_unauthorized hfor hlast hcalls.status (Or.inl hcalls.scope))
  | dropsPeer e =>
    cases h with
    | dropping hlast hcode hscope => exact .told (hlast ▸ told_of_peer hcode hscope)
  | clears request said =>
    cases h with
    | clearing hends => exact .cleared hends
  | looks request said =>
    cases h with
    | cleared hends => exact .redirecting _ hends
  | marks said hfirst =>
    cases h with
    | redirecting generation hends => exact .navigating hends
  | passes said hfirst =>
    cases h with
    | redirecting generation hends => exact .told hends.told
  | navigates said =>
    cases h with
    | navigating hends => exact .told hends.told
  | awaits | waits | ended => exact h

end Steps

end Exchange

/-! ### Who says that the session has expired -/

namespace Exchange

/-- The session was cleared on account of the request, or it is said that it has expired. -/
def hasCleared : Exchange → Bool
  | .cleared _ _ | .redirecting _ _ _ | .navigating _ => true
  | x => x.saysExpired

/-- Such a request neither sends anything nor looks at anything. -/
theorem deed?_of_hasCleared {x : Exchange} (h : x.hasCleared = true) : x.deed? = none := by
  cases x with
  | preparing request scope todo => cases h
  | failed request scope response => cases h
  | joining request scope response => cases h
  | _ => rfl

theorem answered?_of_hasCleared {x : Exchange} (h : x.hasCleared = true)
    (result : Except ApiError Response) : x.answered? result = none := by
  cases x with
  | inFlight request scope => cases h
  | _ => rfl

/-- The transport says that the session has expired, if anybody does upon an answer. -/
theorem hasCleared_of_answer {x : Exchange} {result : Except ApiError Response}
    (h : (x.answer result).hasCleared = true) :
    x.hasCleared = true ∨
      ∃ e, result = .error e ∧ x.answered? result = some (.answered result) := by
  cases x with
  | inFlight request scope =>
    cases result with
    | error e => exact Or.inr ⟨e, rfl, rfl⟩
    | ok response =>
      simp only [answer] at h
      split at h <;> cases h
  | _ => exact Or.inl h

section Steps

variable {β : Type} [Backend β] {c : Console β} {asked : Request} {scope : Scope}
  {last : Option (Except ApiError Response)} {x : Exchange}

/-- Only one who was about to clear the session has cleared it. -/
theorem Heard.hasCleared_of_step (h : x.Heard asked scope last) {now : Moment} {caller : Nat}
    (hcleared : (c.stepExchange now caller x).1.hasCleared = true) :
    x.hasCleared = true ∨ ∃ request said, x = .clearing request said := by
  generalize hy : (c.stepExchange now caller x).1 = y at hcleared
  cases stepsTo_of_stepExchange hy with
  | clears request said => exact Or.inr ⟨request, said, rfl⟩
  | looks | marks | passes | navigates => exact Or.inl rfl
  | ended result => exact Or.inl hcleared
  | unsendable request scope rest hfailure =>
    obtain ⟨fault, rfl⟩ := Attachment.exists_fault_of_failure hfailure
    cases hcleared
  | @propagates _ _ response hdecision =>
    have hexpired : (ApiError.ofResponse response).isSessionExpired = true := hcleared
    rw [ApiError.isSessionExpired_ofResponse] at hexpired
    cases hexpired
  | dropsPeer e =>
    cases h with
    | dropping hlast hcode hscope => cases hcleared
  | _ => cases hcleared

/-- Whoever has cleared the session leaves the store alone from then on. -/
theorem store_stepExchange_of_hasCleared (h : x.hasCleared = true) (now : Moment) (caller : Nat) :
    (c.stepExchange now caller x).2.store = c.store := by
  rw [Console.stepExchange_snd]
  cases x with
  | preparing request scope todo => cases h
  | droppingPeer e => cases h
  | joining request scope response => cases h
  | clearing request said => cases h
  | _ => rfl

end Steps

end Exchange

/-! ### Where such a caller stands -/

/-- What a caller has heard that was asked for a request of a scope. Unless the transport said that
the session has expired, `P` holds if the session was cleared on account of the request. -/
inductive Activity.Heard (asked : Request) (scope : Scope) (done : List Deed) (P : Prop) :
    Activity → Prop
  | within (goal : Goal) {x : Exchange} (hx : x.Heard asked scope (lastAnswer done))
      (hcleared : x.hasCleared = true → (∃ e, lastAnswer done = some (.error e)) ∨ P) :
      Heard asked scope done P (.exchange goal x)
  | past {a : Activity} (ha : a.isPast = true) : Heard asked scope done P a

namespace Console

variable {β : Type} {c : Console β} {caller : Nat} {asked : Request} {scope : Scope}
  {done : List Deed} {P : Prop}

/-- What a caller of this console has heard. -/
def Heard (caller : Nat) (asked : Request) (scope : Scope) (done : List Deed) (P : Prop)
    (c : Console β) : Prop :=
  ∃ a, c.callers[caller]? = some a ∧ a.Heard asked scope done P

/-- A caller that is about to send a request has heard nothing. -/
theorem heard_of_start {goal : Goal}
    (hcaller : c.callers[caller]? = some (.exchange goal (.start c.routes asked)))
    (hfresh : asked.retried = false) :
    c.Heard caller asked (c.routes.classify asked.path) [] P :=
  ⟨_, hcaller, .within goal (Exchange.heard_start c.routes hfresh) nofun⟩

/-- Where a caller stands whose request is over. -/
theorem Heard.of_finished {result : Except ApiError Response} {goal : Goal}
    (h : c.Heard caller asked scope done P)
    (hend : c.callers[caller]? = some (.exchange goal (.finished result))) :
    asked.Told scope (lastAnswer done) result ∧
      ∀ response said, lastAnswer done = some (.ok response) →
        result = .error (.sessionExpired said) → P := by
  obtain ⟨a, ha, hheard⟩ := h
  obtain rfl : a = .exchange goal (.finished result) := Option.some_inj.mp (ha.symm.trans hend)
  cases hheard with
  | within _ hx hcleared =>
    cases hx with
    | told htold =>
      refine ⟨htold, ?_⟩
      rintro response said hlast rfl
      refine (hcleared rfl).resolve_left ?_
      rintro ⟨e, herror⟩
      rw [hlast] at herror
      cases herror
  | past hpast => cases hpast

variable [Backend β]

/-- **Steps of a run.** The steps of the caller, by which the session is cleared or is left alone,
and the events in between decide what is known of the session. -/
theorem Heard.next (h : c.Heard caller asked scope done P) (now : Moment) (e : Event) {Q : Prop}
    (hclears : ∀ goal request said,
      c.callers[caller]? = some (.exchange goal (.clearing request said)) →
      e = .advance caller → Q)
    (hkeeps : ∀ goal goal' x x', c.callers[caller]? = some (.exchange goal x) →
      x.hasCleared = true → (c.step now e).callers[caller]? = some (.exchange goal' x') →
      x'.hasCleared = true → P → Q) :
    (c.step now e).Heard caller asked scope (done ++ (c.deed? caller e).toList) Q := by
  obtain ⟨a, ha, hheard⟩ := h
  obtain ⟨b, hb, hmove⟩ := exists_onward ha now e
  refine ⟨b, hb, ?_⟩
  cases hmove with
  | stayed he hdeed =>
    rw [hdeed, Option.toList_none, List.append_nil]
    cases hheard with
    | within goal hx hcleared =>
      exact .within goal hx fun hnow =>
        (hcleared hnow).imp_right (hkeeps goal goal _ _ ha hnow hb hnow)
    | past hpast => exact .past hpast
  | stepped he =>
    rw [he, deed?_advance ha]
    cases hheard with
    | @within goal x hx hcleared =>
      by_cases hover : ∃ result, x = .finished result
      · obtain ⟨result, rfl⟩ := hover
        exact .past (Activity.isPast_next goal result)
      · have hlast := lastAnswer_append_of_none x.filterMap_answer?_deed? done
        rw [stepActivity_exchange now caller goal c (not_exists.mp hover)] at hb ⊢
        refine .within goal (hlast ▸ hx.step now caller) fun hnow => ?_
        rcases hx.hasCleared_of_step hnow with hbefore | ⟨request, said, rfl⟩
        · rw [Activity.deed?, Exchange.deed?_of_hasCleared hbefore, Option.toList_none,
            List.append_nil]
          exact (hcleared hbefore).imp_right (hkeeps goal goal x _ ha hbefore hb hnow)
        · exact Or.inr (hclears goal request said ha he)
    | past hpast => exact .past (Activity.isPast_stepActivity hpast now caller c)
  | @answered goal x result he =>
    rw [he, deed?_answer ha]
    cases hheard with
    | within _ hx hcleared =>
      refine .within goal (hx.answer result) fun hnow => ?_
      rcases Exchange.hasCleared_of_answer hnow with hbefore | ⟨e', rfl, hanswered⟩
      · rw [Exchange.answered?_of_hasCleared hbefore, Option.toList_none, List.append_nil]
        exact (hcleared hbefore).imp_right (hkeeps goal goal x _ ha hbefore hb hnow)
      · refine Or.inl ⟨e', ?_⟩
        rw [hanswered]
        exact lastAnswer_append_answered done (.error e')
    | past hpast => cases hpast
  | left he => exact .past rfl

/-- The caller has cleared the session on account of its request, and has done nothing for the
request since. The session is empty unless somebody has said since what is in it. -/
def GaveUp (caller : Nat) (c : Console β) (s : List (Moment × Event)) : Prop :=
  ∃ before now after, s = before ++ (now, .advance caller) :: after ∧
    (∃ goal request said,
      (c.run before).callers[caller]? = some (.exchange goal (.clearing request said))) ∧
    let cleared := (c.run before).step now (.advance caller)
    cleared.store.session = {} ∧ cleared.deeds caller after = [] ∧
      (cleared.Writes (fun w => w.choosesSession = false) after → (c.run s).store.session = {})

theorem gaveUp_of_clearing {before : List (Moment × Event)} {goal : Goal} {request : Request}
    {said : String}
    (hthere : (c.run before).callers[caller]? = some (.exchange goal (.clearing request said)))
    (now : Moment) {after : List (Moment × Event)}
    (hidle : ((c.run before).step now (.advance caller)).deeds caller after = []) :
    c.GaveUp caller (before ++ (now, .advance caller) :: after) := by
  have hempty := session_advance_clearing hthere now
  refine ⟨before, now, after, rfl, ⟨goal, request, said, hthere⟩, hempty, hidle, fun hwrites => ?_⟩
  rw [run_append_cons]
  exact session_run_of_empty hempty hwrites

/-! ### Whole runs -/

/-- **Whole runs.** Who has cleared the session has given up. -/
theorem Heard.run {s : List (Moment × Event)}
    (hstart : c.Heard caller asked scope [] (c.GaveUp caller [])) :
    (c.run s).Heard caller asked scope (c.deeds caller s) (c.GaveUp caller s) := by
  induction s using List.reverseRecOn with
  | nil => exact hstart
  | append_singleton s x ih =>
    obtain ⟨now, e⟩ := x
    rw [run_append_singleton, deeds_append_singleton]
    refine ih.next now e ?_ ?_
    · rintro goal request said hthere rfl
      exact gaveUp_of_clearing hthere now rfl
    · rintro goal goal' x x' hthere hcleared - - ⟨before, m, after, rfl, hclearing, -, hidle, -⟩
      -- the caller goes on without doing anything for its request
      have hnone : (c.run (before ++ (m, .advance caller) :: after)).deed? caller e = none := by
        cases e with
        | advance k =>
          by_cases hk : k = caller
          · rw [hk, deed?_advance hthere]
            exact Exchange.deed?_of_hasCleared hcleared
          · exact if_neg hk
        | answer k result =>
          by_cases hk : k = caller
          · rw [hk, deed?_answer hthere]
            exact Exchange.answered?_of_hasCleared hcleared result
          · exact if_neg hk
        | _ => rfl
      rw [run_append_cons] at hnone
      obtain ⟨goal, request, said, hclearing⟩ := hclearing
      rw [List.append_assoc, List.cons_append]
      refine gaveUp_of_clearing hclearing m ?_
      rw [deeds_append_singleton, hidle, hnone]
      rfl

/-- **Whole stretches.** If nobody comes in between, what was cleared is still empty. -/
theorem Heard.run_unbroken {midway : Bool} {s : List (Moment × Event)}
    (h : c.Heard caller asked scope done (midway = true ∧ c.store.session = {}))
    (hs : c.Unbroken caller midway s) :
    (c.run s).Heard caller asked scope (done ++ c.deeds caller s)
      ((c.run s).store.session = {}) := by
  induction s generalizing c midway done with
  | nil =>
    obtain ⟨a, ha, hheard⟩ := h
    refine ⟨a, ha, ?_⟩
    rw [deeds, List.append_nil]
    cases hheard with
    | within goal hx hcleared =>
      exact .within goal hx fun hnow => (hcleared hnow).imp_right And.right
    | past hpast => exact .past hpast
  | cons x rest ih =>
    obtain ⟨now, e⟩ := x
    rw [deeds, ← List.append_assoc]
    refine ih (h.next now e ?_ ?_) hs.2
    · rintro goal request said hthere rfl
      refine ⟨?_, session_advance_clearing hthere now⟩
      have hcan : (c.step now (.advance caller)).canAdvance caller = true := by
        rw [canAdvance, step, getElem?_callers_advance_self hthere]
        rfl
      rw [hcan, Event.isStepOf, beq_self_eq_true, Bool.and_true]
    · rintro goal goal' x x' hthere hcleared hthere' hcleared' ⟨hmidway, hempty⟩
      obtain rfl := Event.isStepOf_iff.mp (hs.1 hmidway)
      have hcan : (c.step now (.advance caller)).canAdvance caller = true := by
        rw [canAdvance, hthere']
        cases x' with
        | inFlight request scope => cases hcleared'
        | waiting request scope response id => cases hcleared'
        | _ => rfl
      refine ⟨by rw [hcan, Event.isStepOf, beq_self_eq_true, Bool.and_true], ?_⟩
      by_cases hover : ∃ result, x = .finished result
      · obtain ⟨result, rfl⟩ := hover
        rw [step, advance_of_getElem? hthere]
        exact hempty
      · rw [step, advance_of_getElem? hthere,
          stepActivity_exchange now caller goal c (not_exists.mp hover)]
        exact (congrArg Store.session
          (Exchange.store_stepExchange_of_hasCleared hcleared now caller)).trans hempty

end Console

/-- Of all answers, only one of status 401 makes a caller say that a credential was rejected. -/
theorem Request.Told.code_of_isRejection {asked : Request} {scope : Scope} {response : Response}
    {e : ApiError} (h : asked.Told scope (some (.ok response)) (.error e))
    (he : e.isRejection = true) : response.status.code = 401 := by
  cases h with
  | failed hfailed hcode =>
    rw [ApiError.isRejection_ofResponse hcode] at he
    cases he
  | rejected hcode => exact hcode
  | unreplayable hcode hscope htoken => exact hcode

namespace Console

variable {β : Type} [Backend β] {c : Console β} {caller : Nat} {asked : Request}

/-- **The meaning of a rejection.** A caller sends a request. Whatever the table, the store, the
server and the others do, once the request is over what the caller gets is told by the scope of the
request and the last answer that it has got for it. If that was of status 401, the caller gets the
error that this means at the scope, with the text of that very answer, unless the token to send the
request again with cannot be sent; and no other answer makes it say that a credential was rejected.
When an answer leads to an expired session, the caller has cleared the session after that answer.
The session is empty at that point if nobody has said in the meantime what is in it, and so it is if
nobody has come between the steps of the caller's stretches. -/
theorem rejection_meaning {goal goal' : Goal} {result : Except ApiError Response}
    (hcaller : c.callers[caller]? = some (.exchange goal (.start c.routes asked)))
    (hfresh : asked.retried = false) {s : List (Moment × Event)}
    (hend : (c.run s).callers[caller]? = some (.exchange goal' (.finished result))) :
    asked.Told (c.routes.classify asked.path) (lastAnswer (c.deeds caller s)) result ∧
      (∀ response e, lastAnswer (c.deeds caller s) = some (.ok response) → result = .error e →
        e.isRejection = true → response.status.code = 401) ∧
      ∀ response said, lastAnswer (c.deeds caller s) = some (.ok response) →
        result = .error (.sessionExpired said) →
        c.GaveUp caller s ∧
          (c.Unbroken caller false s → (c.run s).store.session = {}) := by
  obtain ⟨htold, hgaveUp⟩ := (Heard.run (heard_of_start hcaller hfresh)).of_finished hend
  refine ⟨htold, ?_, fun response said hlast hresult => ⟨hgaveUp response said hlast hresult,
    fun hs => ?_⟩⟩
  · rintro response e hlast rfl
    rw [hlast] at htold
    exact htold.code_of_isRejection
  · obtain ⟨-, hempty⟩ := ((heard_of_start hcaller hfresh).run_unbroken hs).of_finished hend
    exact hempty response said hlast hresult

/-- A request is rejected and the renewal refused, and the caller clears the session. -/
def givingUp : List (Moment × Event) :=
  [ .advance 0, .advance 0, .answer 0 (.ok .expired), .advance 0, .advance 0, .advanceCycle 0,
    .answerCycle 0 (.ok .expired), .advanceCycle 0, .advanceCycle 0, .advanceCycle 0,
    .advance 0, .advance 0, .advance 0 ].map (default, ·)

/-- The caller sends the user to the login page. -/
def sendingAway : List (Moment × Event) := [.advance 0, .advance 0, .advance 0].map (default, ·)

/-- The request comes to its end without an interruption. -/
def unrenewed : List (Moment × Event) := givingUp ++ sendingAway

theorem rejection_meaning_unrenewed :
    listing.Unbroken 0 false unrenewed ∧
      (listing.run unrenewed).callers[0]? =
        some (.exchange .response (.finished (.error (.sessionExpired "expired")))) ∧
      Request.Told .listing .primary (some (.ok .expired)) (.error (.sessionExpired "expired")) ∧
      (listing.run unrenewed).store.session = {} := by
  have hs : listing.Unbroken 0 false unrenewed := by decide
  have hcaller : listing.callers[0]? = some (.exchange .response (.start ⟨[]⟩ .listing)) := rfl
  have hend : (listing.run unrenewed).callers[0]? =
    some (.exchange .response (.finished (.error (.sessionExpired "expired")))) := rfl
  obtain ⟨htold, -, hexpired⟩ := rejection_meaning hcaller rfl hend
  exact ⟨hs, hend, htold, (hexpired .expired "expired" rfl rfl).2 hs⟩

/-- Another session is installed. -/
def installing : List (Moment × Event) :=
  [.start (.write (.setSession ⟨some "B1", some "R9"⟩)), .advance 1].map (default, ·)

/-- A request to where sessions are renewed. -/
def renewalPage : Request := { method := .get, path := "/api/v1/token/renew#x" }

/-- Nobody is signed in, and the request is rejected. -/
def renewalPageRejected : Console MemoryBackend :=
  (opened .standard (.inMemory {})).run <| List.map (default, ·)
    [ .start (.send renewalPage), .advance 0, .answer 0 (.ok .expired), .advance 0, .advance 0,
      .advance 0, .advance 0, .advance 0 ]

/-- Where another session is installed between the steps in which the caller clears its own and says
that it has expired, that session is there when this is said. And a request to where sessions are
renewed is known by its path up to a fragment as well as up to a query. -/
theorem newer_session_outlives_rejection :
    (listing.run (givingUp ++ installing ++ sendingAway)).callers[0]? =
        some (.exchange .response (.finished (.error (.sessionExpired "expired")))) ∧
      (listing.run (givingUp ++ installing ++ sendingAway)).store.session =
        ⟨some "B1", some "R9"⟩ ∧
      renewalPageRejected.callers[0]? =
        some (.exchange .response (.finished (.error (.sessionExpired "expired")))) ∧
      RouteTable.standard.classify renewalPage.path = .unscoped ∧
      '?' ∉ renewalPage.path.toList ∧ renewalPage.path ≠ Endpoint.renewal := by
  simp only [renewalPageRejected, RouteTable.standard_eq]
  exact ⟨rfl, rfl, rfl, rfl, by decide, by decide⟩

end Console

end AdminConsole
