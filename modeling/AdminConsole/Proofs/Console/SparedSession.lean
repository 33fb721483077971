import AdminConsole.Proofs.Console.Attaching
import AdminConsole.Proofs.Console.BoundedReplay
import AdminConsole.Proofs.Console.Causes
import AdminConsole.Proofs.Console.Moves
import AdminConsole.Proofs.Console.NewerSession

/-!
# Failures that are none of the session's

A rejected credential of a tunnel says nothing about the session, and neither does a failure in
which no credential was rejected. So such a request is sent once, and whatever comes of it the
caller looks at the session at most once and leaves it alone: the only thing that it may change is
the selected peer, which is dropped when its credential was rejected.

`Exchange.Sidelined` lists where the request may stand and what has been done for it by then, in
every interleaving with others. `session_spared` reads off the list that nothing is changed, and
says besides what the caller gets if nobody interrupts it, which is a matter of what authenticating
the request comes to and of the one answer of the server.
-/

namespace AdminConsole

open AdminConsole.Time

/-! ### What becomes of such a failure -/

/-- The credential for the scope is one of a tunnel. -/
def Scope.isTunnel : Scope → Bool
  | .tunnelClientOrServer | .tunnelGeneric => true
  | .primary | .unscoped => false

/-- A response to a request of the scope that says nothing about the session. -/
def Response.Spares (scope : Scope) (response : Response) : Prop :=
  scope.isTunnel = true ∨ response.status.code ≠ 401

/-- The error that such a response ends in, if it is no success. -/
def Response.errorIn (scope : Scope) (response : Response) : ApiError :=
  if response.status.code = 401 then scopeFailure scope (.ofResponse response)
  else .ofResponse response

/-- What the caller gets. -/
def Scope.outcome (scope : Scope) : Except ApiError Response → Except ApiError Response
  | .error e => .error e
  | .ok response =>
    if response.status.isSuccess then .ok response else .error (response.errorIn scope)

theorem Scope.outcome_of_failed (scope : Scope) {response : Response}
    (h : response.status.isSuccess = false) :
    scope.outcome (.ok response) = .error (response.errorIn scope) := by
  simp only [outcome, h, Bool.false_eq_true, if_false]

/-- The answer makes a caller drop the selected peer. -/
def Scope.dropsPeer (scope : Scope) : Except ApiError Response → Bool
  | .error _ => false
  | .ok response => scope = .tunnelClientOrServer && response.status.code = 401

theorem Scope.dropsPeer_ok {scope : Scope} {response : Response} :
    scope.dropsPeer (.ok response) = true ↔
      scope = .tunnelClientOrServer ∧ response.status.code = 401 := by
  simp only [dropsPeer, Bool.and_eq_true, decide_eq_true_eq]

/-- The answer to a request. -/
def Deed.answer? : Deed → Option (Except ApiError Response)
  | .answered result => some result
  | .sent _ | .looked | .sought => none

/-- The first answer that a caller has got. -/
def firstAnswer (deeds : List Deed) : Option (Except ApiError Response) :=
  deeds.findSome? Deed.answer?

theorem firstAnswer_append_of_some {done : List Deed} {result : Except ApiError Response}
    (h : firstAnswer done = some result) (more : List Deed) :
    firstAnswer (done ++ more) = some result := by
  rw [firstAnswer, List.findSome?_append, ← firstAnswer, h]
  rfl

/-- A failure that says nothing about the session ends in an error, after the peer was dropped or at
once. -/
theorem Exchange.decided_of_spares {scope : Scope} {response : Response}
    (h : response.Spares scope) (request : Request) (access refresh : Option String) :
    decided request scope response
        (FailureContext.of request scope response access refresh).decide =
      if scope.dropsPeer (.ok response) then .droppingPeer (response.errorIn scope)
      else .finished (.error (response.errorIn scope)) := by
  by_cases hcode : response.status.code = 401
  · -- only a tunnel may reject a credential here
    have htunnel : scope.isTunnel = true := h.resolve_right fun hne => hne hcode
    cases scope with
    | primary => cases htunnel
    | unscoped => cases htunnel
    | tunnelClientOrServer =>
      rw [if_pos (Scope.dropsPeer_ok.mpr ⟨rfl, hcode⟩)]
      simp only [FailureContext.of, FailureContext.decide, hcode, Response.errorIn, decided,
        ne_eq, not_true_eq_false, if_false, if_true]
    | tunnelGeneric =>
      rw [if_neg fun hdrops => by cases (Scope.dropsPeer_ok.mp hdrops).1]
      simp only [FailureContext.of, FailureContext.decide, hcode, Response.errorIn, decided,
        ne_eq, not_true_eq_false, if_false, if_true]
  · rw [if_neg fun hdrops => hcode (Scope.dropsPeer_ok.mp hdrops).2]
    simp only [FailureContext.of, FailureContext.decide, hcode, Response.errorIn, decided, ne_eq,
      not_false_eq_true, if_true, if_false]

/-! ### Where such a request stands -/

/-- The first answer is one that concerns the session. -/
def ConcernsSession (scope : Scope) (done : List Deed) : Prop :=
  ∃ response, firstAnswer done = some (.ok response) ∧ ¬ response.Spares scope

namespace Exchange

/-- How far a request of a scope has come that stands for the one that was asked for, and what the
caller has done for it, as long as its first answer is none that concerns the session. -/
inductive Sidelined (asked : Request) (scope : Scope) : Exchange → List Deed → Prop
  | attaching {request : Request} (hrequest : request.StandsFor asked) (todo : List Attachment) :
      Sidelined asked scope (.preparing request scope todo) []
  | unsendable (fault : RequestFault) :
      Sidelined asked scope (.finished (.error (.invalidRequest fault))) []
  | awaiting {first : Request} (hfirst : first.StandsFor asked) :
      Sidelined asked scope (.inFlight first scope) [.sent first]
  | failed {first : Request} {response : Response} (hfirst : first.StandsFor asked)
      (hspares : response.Spares scope) (hfailed : response.status.isSuccess = false) :
      Sidelined asked scope (.failed first scope response)
        [.sent first, .answered (.ok response)]
  | dropping {first : Request} {response : Response} (hfirst : first.StandsFor asked)
      (hscope : scope = .tunnelClientOrServer) (hcode : response.status.code = 401) :
      Sidelined asked scope (.droppingPeer (response.errorIn scope))
        [.sent first, .answered (.ok response), .looked]
  | ended {first : Request} {result told : Except ApiError Response} {looks : List Deed}
      (hfirst : first.StandsFor asked) (htold : told = scope.outcome result)
      (hlooks : looks = [] ∨ looks = [.looked]) :
      Sidelined asked scope (.finished told) (.sent first :: .answered result :: looks)
  | otherwise {x : Exchange} {done : List Deed} (hconcerns : ConcernsSession scope done) :
      Sidelined asked scope x done

end Exchange

/-- All that is done for such a request. -/
inductive Aside (asked : Request) (scope : Scope) : List Deed → Prop
  | nothing : Aside asked scope []
  | sent {first : Request} (hfirst : first.StandsFor asked) : Aside asked scope [.sent first]
  | answered {first : Request} {looks : List Deed} (hfirst : first.StandsFor asked)
      (result : Except ApiError Response) (hlooks : looks = [] ∨ looks = [.looked]) :
      Aside asked scope (.sent first :: .answered result :: looks)
  | otherwise {done : List Deed} (hconcerns : ConcernsSession scope done) :
      Aside asked scope done

namespace Exchange

variable {asked : Request} {scope : Scope} {x : Exchange} {done : List Deed}

theorem Sidelined.aside (h : x.Sidelined asked scope done) : Aside asked scope done := by
  cases h with
  | attaching hrequest todo => exact .nothing
  | unsendable fault => exact .nothing
  | awaiting hfirst => exact .sent hfirst
  | failed hfirst hspares hfailed => exact .answered hfirst _ (Or.inl rfl)
  | dropping hfirst hscope hcode => exact .answered hfirst _ (Or.inr rfl)
  | ended hfirst htold hlooks => exact .answered hfirst _ hlooks
  | otherwise hconcerns => exact .otherwise hconcerns

/-- Once the request is over, it was sent and the caller gets what the answer comes to, or it could
not be sent. -/
theorem Sidelined.told {told : Except ApiError Response}
    (h : (finished told).Sidelined asked scope done) (hspared : ¬ ConcernsSession scope done) :
    (∃ fault, told = .error (.invalidRequest fault) ∧ done.filterMap Deed.request? = []) ∨
      ∃ first result, done.filterMap Deed.request? = [first] ∧
        firstAnswer done = some result ∧ told = scope.outcome result := by
  cases h with
  | unsendable fault => exact Or.inl ⟨fault, rfl, rfl⟩
  | @ended first result _ looks hfirst htold hlooks =>
    refine Or.inr ⟨first, result, ?_, rfl, htold⟩
    rcases hlooks with rfl | rfl <;> rfl
  | otherwise hconcerns => exact absurd hconcerns hspared

theorem Sidelined.answer (h : x.Sidelined asked scope done) (result : Except ApiError Response) :
    (x.answer result).Sidelined asked scope (done ++ (x.answered? result).toList) := by
  have hsame : x.Sidelined asked scope (done ++ []) := (List.append_nil done).symm ▸ h
  cases h with
  | @awaiting first hfirst =>
    cases result with
    | error e => exact .ended hfirst rfl (Or.inl rfl)
    | ok response =>
      by_cases hspares : response.Spares scope
      · simp only [Exchange.answer, Exchange.answered?]
        cases hsuccess : response.status.isSuccess with
        | true => exact .ended hfirst (by simp only [Scope.outcome, hsuccess, if_true]) (Or.inl rfl)
        | false => exact .failed hfirst hspares hsuccess
      · exact .otherwise ⟨response, rfl, hspares⟩
  | otherwise hconcerns =>
    obtain ⟨response, hfirst, hnot⟩ := hconcerns
    exact .otherwise ⟨response, firstAnswer_append_of_some hfirst _, hnot⟩
  | _ => exact hsame

section Steps

variable {β : Type} [Backend β] {c : Console β}

/-- **Steps of a request.** -/
theorem Sidelined.step (h : x.Sidelined asked scope done) (now : Moment) (caller : Nat) :
    (c.stepExchange now caller x).1.Sidelined asked scope (done ++ x.deed?.toList) := by
  cases h with
  | @attaching request hrequest todo =>
    cases todo with
    | nil => exact .awaiting hrequest
    | cons a rest =>
      simp only [Console.stepExchange]
      split
      · rename_i e hfailure
        obtain ⟨fault, rfl⟩ := Attachment.exists_fault_of_failure hfailure
        exact .unsendable fault
      · have hattach := Attachment.standsFor_attach c.store request a
        exact .attaching ⟨hattach.path.trans hrequest.path,
          hattach.silent.trans hrequest.silent⟩ _
  | unsendable fault => exact .unsendable fault
  | awaiting hfirst => exact .awaiting hfirst
  | @failed first response hfirst hspares hfailed =>
    simp only [Console.stepExchange, decided_of_spares hspares]
    split <;> rename_i hdrops
    · obtain ⟨hscope, hcode⟩ := Scope.dropsPeer_ok.mp hdrops
      exact .dropping hfirst hscope hcode
    · exact .ended hfirst (Scope.outcome_of_failed scope hfailed).symm (Or.inr rfl)
  | @dropping first response hfirst hscope hcode =>
    have hfailed := Status.isSuccess_of_unauthorized hcode
    exact .ended hfirst (Scope.outcome_of_failed scope hfailed).symm (Or.inr rfl)
  | ended hfirst htold hlooks => exact (List.append_nil _).symm ▸ .ended hfirst htold hlooks
  | otherwise hconcerns =>
    obtain ⟨response, hfirst, hnot⟩ := hconcerns
    exact .otherwise ⟨response, firstAnswer_append_of_some hfirst _, hnot⟩

/-- **Frame.** A step of such a request sends it, or drops the selected peer, or changes nothing but
where the caller stands. -/
theorem Sidelined.frame (h : x.Sidelined asked scope done) (hspared : ¬ ConcernsSession scope done)
    (now : Moment) (caller : Nat) :
    (c.stepExchange now caller x).2 = c ∨
      (∃ first, done = [] ∧ first.StandsFor asked ∧
        (c.stepExchange now caller x).2 = c.transmit (.caller caller) first) ∨
      (∃ result, firstAnswer done = some result ∧ scope.dropsPeer result = true) ∧
        (c.stepExchange now caller x).2 = { c with store := c.store.clearPeer } := by
  rw [Console.stepExchange_snd]
  cases h with
  | @attaching request hrequest todo =>
    cases todo with
    | nil => exact Or.inr (Or.inl ⟨request, rfl, hrequest, rfl⟩)
    | cons a rest => exact Or.inl rfl
  | unsendable fault => exact Or.inl rfl
  | awaiting hfirst => exact Or.inl rfl
  | failed hfirst hspares hfailed => exact Or.inl rfl
  | @dropping first response hfirst hscope hcode =>
    exact Or.inr (Or.inr ⟨⟨.ok response, rfl, Scope.dropsPeer_ok.mpr ⟨hscope, hcode⟩⟩, rfl⟩)
  | ended hfirst htold hlooks => exact Or.inl rfl
  | otherwise hconcerns => exact absurd hconcerns hspared

end Steps

end Exchange

/-! ### Where such a caller stands -/

/-- How far a caller has come that was asked for a request of a scope. -/
inductive Activity.Sidelined (asked : Request) (scope : Scope) : Activity → List Deed → Prop
  | within (goal : Goal) {x : Exchange} {done : List Deed} (hx : x.Sidelined asked scope done) :
      Sidelined asked scope (.exchange goal x) done
  | past {a : Activity} {done : List Deed} (ha : a.isPast = true)
      (haside : Aside asked scope done) : Sidelined asked scope a done

/-- What there is to say of a caller that was asked for a request of a scope, in a run that starts
at `c` and in which its first answer is none that concerns the session. -/
structure Console.Sidesteps {β : Type} [Backend β] (caller : Nat) (asked : Request) (scope : Scope)
    (c : Console β) (s : List (Moment × Event)) : Prop where
  /-- The request is sent once at most, with what was attached to it. -/
  sends : (c.deeds caller s).filterMap Deed.request? = [] ∨ ∃ first, first.StandsFor asked ∧
    (c.deeds caller s).filterMap Deed.request? = [first]
  sentBy : (c.run s).sentBy caller =
    c.sentBy caller ++ (c.deeds caller s).filterMap Deed.request?
  /-- No cycle is looked for. -/
  searches : (c.deeds caller s).countP Deed.isSearch = 0
  /-- While the request is under way, the next step of the caller changes nothing but where it
  stands, or sends the request for the first time, or drops the selected peer. -/
  step : ∀ goal x now, (c.run s).callers[caller]? = some (.exchange goal x) →
    let d := c.run s
    let d' := d.step now (.advance caller)
    d' = { d with callers := d'.callers } ∨
      (∃ first, c.deeds caller s = [] ∧ first.StandsFor asked ∧
        d' = { d.transmit (.caller caller) first with callers := d'.callers }) ∨
      (∃ result, firstAnswer (c.deeds caller s) = some result ∧ scope.dropsPeer result = true) ∧
        d' = { d with callers := d'.callers, store := d.store.clearPeer }
  /-- Once the request is over, it was sent and the caller gets what the answer comes to, or it
  could not be sent. -/
  ended : ∀ goal told, (c.run s).callers[caller]? = some (.exchange goal (.finished told)) →
    (∃ fault, told = .error (.invalidRequest fault) ∧
      (c.deeds caller s).filterMap Deed.request? = []) ∨
    ∃ first result, (c.deeds caller s).filterMap Deed.request? = [first] ∧
      firstAnswer (c.deeds caller s) = some result ∧ told = scope.outcome result

theorem Aside.sends {asked : Request} {scope : Scope} {done : List Deed}
    (h : Aside asked scope done) (hspared : ¬ ConcernsSession scope done) :
    (done.filterMap Deed.request? = [] ∨ ∃ first, first.StandsFor asked ∧
      done.filterMap Deed.request? = [first]) ∧ done.countP Deed.isSearch = 0 := by
  cases h with
  | nothing => exact ⟨Or.inl rfl, rfl⟩
  | @sent first hfirst => exact ⟨Or.inr ⟨first, hfirst, rfl⟩, rfl⟩
  | @answered first looks hfirst result hlooks =>
    rcases hlooks with rfl | rfl
    · exact ⟨Or.inr ⟨first, hfirst, rfl⟩, rfl⟩
    · exact ⟨Or.inr ⟨first, hfirst, rfl⟩, rfl⟩
  | otherwise hconcerns => exact absurd hconcerns hspared

namespace Console

variable {β : Type} {c : Console β} {caller : Nat} {asked : Request} {scope : Scope}
  {done : List Deed}

/-- How far a caller of this console has come. -/
def Sidelined (caller : Nat) (asked : Request) (scope : Scope) (done : List Deed)
    (c : Console β) : Prop :=
  ∃ a, c.callers[caller]? = some a ∧ a.Sidelined asked scope done

variable [Backend β]

/-- **Steps of a run.** -/
theorem Sidelined.next (h : c.Sidelined caller asked scope done) (now : Moment) (e : Event) :
    (c.step now e).Sidelined caller asked scope (done ++ (c.deed? caller e).toList) := by
  obtain ⟨a, ha, hside⟩ := h
  obtain ⟨b, hb, hmove⟩ := exists_onward ha now e
  refine ⟨b, hb, ?_⟩
  cases hmove with
  | stayed he hdeed =>
    rw [hdeed, Option.toList_none, List.append_nil]
    exact hside
  | stepped he =>
    rw [he, deed?_advance ha]
    cases hside with
    | @within goal x done hx =>
      by_cases hover : ∃ result, x = .finished result
      · obtain ⟨result, rfl⟩ := hover
        exact .past (Activity.isPast_next goal result) ((List.append_nil done).symm ▸ hx.aside)
      · rw [stepActivity_exchange now caller goal c (not_exists.mp hover)]
        exact .within goal (hx.step now caller)
    | past hpast haside =>
      rw [Activity.deed?_of_isPast hpast, Option.toList_none, List.append_nil]
      exact .past (Activity.isPast_stepActivity hpast now caller c) haside
  | @answered goal x result he =>
    rw [he, deed?_answer ha]
    cases hside with
    | within _ hx => exact .within goal (hx.answer result)
    | past hpast haside => cases hpast
  | left he =>
    have hnone : c.deed? caller (.cancel caller) = none := rfl
    rw [he, hnone, Option.toList_none, List.append_nil]
    cases hside with
    | within goal hx => exact .past rfl hx.aside
    | past hpast haside => exact .past rfl haside

/-- **Whole runs.** -/
theorem Sidelined.run (h : c.Sidelined caller asked scope done) (s : List (Moment × Event)) :
    (c.run s).Sidelined caller asked scope (done ++ c.deeds caller s) := by
  induction s generalizing c done with
  | nil => exact (List.append_nil done).symm ▸ h
  | cons x rest ih =>
    obtain ⟨now, e⟩ := x
    rw [deeds, ← List.append_assoc]
    exact ih (h.next now e)

theorem sidesteps {goal : Goal}
    (hcaller : c.callers[caller]? = some (.exchange goal (.start c.routes asked)))
    {s : List (Moment × Event)}
    (hspared : ¬ ConcernsSession (c.routes.classify asked.path) (c.deeds caller s)) :
    c.Sidesteps caller asked (c.routes.classify asked.path) s := by
  have hstart : c.Sidelined caller asked (c.routes.classify asked.path) [] :=
    ⟨_, hcaller, .within goal (.attaching ⟨rfl, rfl⟩ _)⟩
  obtain ⟨a, ha, hside⟩ := hstart.run s
  rw [List.nil_append] at hside
  have haside : Aside asked (c.routes.classify asked.path) (c.deeds caller s) := by
    cases hside with
    | within goal hx => exact hx.aside
    | past hpast haside => exact haside
  obtain ⟨hsends, hsearches⟩ := haside.sends hspared
  -- where the caller stands while its request is under way
  have hwithin : ∀ {goal x}, (c.run s).callers[caller]? = some (.exchange goal x) →
      x.Sidelined asked (c.routes.classify asked.path) (c.deeds caller s) := by
    intro goal x hx
    obtain rfl : a = .exchange goal x := Option.some_inj.mp (ha.symm.trans hx)
    cases hside with
    | within _ hx => exact hx
    | past hpast _ => cases hpast
  refine ⟨hsends, sentBy_run c caller s, hsearches, fun goal x now hx => ?_,
    fun goal told hx => ?_⟩
  · intro d d'
    have hd' : d' = { (d.stepActivity now caller (.exchange goal x)).2 with
        callers := d'.callers } := by
      have hadvance : d' = _ := advance_of_getElem? hx
      rw [hadvance]
    by_cases hover : ∃ result, x = .finished result
    · obtain ⟨result, rfl⟩ := hover
      exact Or.inl hd'
    · rw [stepActivity_exchange now caller goal d (not_exists.mp hover)] at hd'
      rcases (hwithin hx).frame (c := d) hspared now caller with
        hsame | ⟨first, hdone, hfirst, hsent⟩ | ⟨hdrops, hdropped⟩
      · exact Or.inl (hd'.trans (by rw [hsame]))
      · exact Or.inr (Or.inl ⟨first, hdone, hfirst, hd'.trans (by rw [hsent])⟩)
      · exact Or.inr (Or.inr ⟨hdrops, hd'.trans (by rw [hdropped])⟩)
  · exact (hwithin hx).told hspared

/-! ### A caller that is alone -/

section Alone

variable (now : Moment) (caller limit : Nat)

theorem glide_over (result : Except ApiError Response) (c : Console β) :
    glide now caller (limit + 1) (.exchange .response (.finished result)) c =
      (.finished (.response result), c) :=
  (glide_succ rfl).trans (glide_finished now caller limit _ c)

theorem glide_prepared (goal : Goal) (request : Request) (scope : Scope) (c : Console β) :
    glide now caller (limit + 1) (.exchange goal (.preparing request scope [])) c =
      (.exchange goal (.inFlight request scope), c.transmit (.caller caller) request) := by
  refine (glide_succ rfl).trans ?_
  cases limit <;> rfl

/-- The rest of a request whose failure says nothing about the session. -/
theorem glide_failed {response : Response} (hspares : response.Spares scope) (request : Request)
    (c : Console β) :
    glide now caller (limit + 3) (.exchange .response (.failed request scope response)) c =
      (.finished (.response (.error (response.errorIn scope))),
        { c with
          store := if scope.dropsPeer (.ok response) then c.store.clearPeer else c.store }) := by
  have hstep : c.stepActivity now caller (.exchange .response (.failed request scope response)) =
      (.exchange .response
        (if scope.dropsPeer (.ok response) then .droppingPeer (response.errorIn scope)
          else .finished (.error (response.errorIn scope))), c) := by
    simp only [stepActivity, stepExchange, Exchange.decided_of_spares hspares]
  rw [glide_succ rfl, hstep]
  cases scope.dropsPeer (.ok response) with
  | true => exact (glide_succ rfl).trans (glide_over now caller limit _ _)
  | false => exact glide_over now caller (limit + 1) _ _

/-- The rest of a request once it is answered. -/
theorem glide_answered {result : Except ApiError Response}
    (hspares : ∀ response, result = .ok response → response.Spares scope) (request : Request)
    (c : Console β) :
    glide now caller (limit + 3)
        (.exchange .response ((Exchange.inFlight request scope).answer result)) c =
      (.finished (.response (scope.outcome result)),
        { c with store := if scope.dropsPeer result then c.store.clearPeer else c.store }) := by
  cases result with
  | error e => exact glide_over now caller (limit + 2) _ c
  | ok response =>
    cases hsuccess : response.status.isSuccess with
    | true =>
      have hkept : ¬ scope.dropsPeer (.ok response) = true := fun hdrops => by
        rw [Status.isSuccess_of_unauthorized (Scope.dropsPeer_ok.mp hdrops).2] at hsuccess
        cases hsuccess
      simp only [Exchange.answer, Scope.outcome, hsuccess, if_true, if_neg hkept]
      exact glide_over now caller (limit + 2) _ c
    | false =>
      rw [Scope.outcome_of_failed scope hsuccess]
      simp only [Exchange.answer, hsuccess, Bool.false_eq_true, if_false]
      exact glide_failed now caller limit (hspares response rfl) request c

end Alone

section Serve

variable {m : Type → Type} [Monad m] {now : Moment} {limit : Nat}
  {send : Request → m (Except ApiError Response)}

theorem serve_of_finished {outcome : Outcome}
    (h : (c.stretch now caller).callers[caller]? = some (.finished outcome)) :
    serve now send caller (limit + 1) c = pure (some outcome, c.stretch now caller) := by
  simp only [serve, h]

theorem serve_of_inFlight {goal : Goal} {request : Request}
    (h : (c.stretch now caller).callers[caller]? =
      some (.exchange goal (.inFlight request scope))) :
    serve now send caller (limit + 1) c = send request >>= fun result =>
      serve now send caller limit ((c.stretch now caller).answer caller result) := by
  simp only [serve, h]

end Serve

/-- Where a new caller is after the first stretch. -/
theorem stretch_start (now : Moment) (request : Request) (c : Console β) :
    (c.step now (.start (.send request))).stretch now c.callers.length =
      match authenticate c.routes c.store request with
      | (.ok scope, r) =>
        { c.transmit (.caller c.callers.length) r with
          callers := c.callers ++ [.exchange .response (.inFlight r scope)] }
      | (.error e, _) => { c with callers := c.callers ++ [.finished (.response (.error e))] } := by
  let started := c.step now (.start (.send request))
  have hthere : started.callers[c.callers.length]? =
      some (.exchange .response (.start started.routes request)) := List.getElem?_concat_length
  obtain ⟨n, hn, hglide⟩ := glide_start now c.callers.length .response started request
  have hlimit : stretchLimit = n + ((63 - n) + 1) := by
    have : stretchLimit = 64 := rfl
    omega
  have hauth : authenticate started.routes started.store request =
      authenticate c.routes c.store request := rfl
  have hset : ∀ a, started.callers.set c.callers.length a = c.callers ++ [a] := by
    simp [started, step]
  change started.stretch now c.callers.length = _
  rw [stretch_eq hthere, hlimit, hglide, hauth]
  cases authenticate c.routes c.store request with
  | mk authenticated r =>
    cases authenticated with
    | ok scope =>
      dsimp only
      rw [glide_prepared, hset]
      rfl
    | error e =>
      dsimp only
      rw [glide_over, hset]
      rfl

/-- Where a caller is after the stretch in which it gets its answer. -/
theorem stretch_answered {request : Request} {result : Except ApiError Response}
    (h : c.callers[caller]? = some (.exchange .response (.inFlight request scope)))
    (hspares : ∀ response, result = .ok response → response.Spares scope) (now : Moment) :
    (c.answer caller result).stretch now caller =
      { c with
        callers := c.callers.set caller (.finished (.response (scope.outcome result)))
        store := if scope.dropsPeer result then c.store.clearPeer else c.store } := by
  have hanswer : c.answer caller result = { c with
      callers := c.callers.set caller
        (.exchange .response ((Exchange.inFlight request scope).answer result)) } := by
    simp only [answer, h]
  have hthere : (c.answer caller result).callers[caller]? =
      some (.exchange .response ((Exchange.inFlight request scope).answer result)) := by
    rw [hanswer]
    exact List.getElem?_set_self (List.getElem?_eq_some_iff.mp h).1
  have hlimit : stretchLimit = 61 + 3 := rfl
  rw [stretch_eq hthere, hlimit, glide_answered now caller 61 hspares, hanswer, List.set_set]

/-- What a caller that is alone comes to with a request whose answer says nothing about the session:
one that cannot be authenticated is not sent; another one is sent once, as it was authenticated, and
the answer decides what the caller gets and whether the peer is dropped. Nothing else is changed. -/
def SendsOnce (now : Moment) (server : Request → Except ApiError Response) (request : Request)
    (c : Console β) : Prop :=
  match authenticate c.routes c.store request with
  | (.error e, _) =>
    c.perform (m := Id) now server (.send request) =
      (some (.response (.error e)),
        { c with callers := c.callers ++ [.finished (.response (.error e))] })
  | (.ok scope, r) => (∀ response, server r = .ok response → response.Spares scope) →
    c.perform (m := Id) now server (.send request) =
      (some (.response (scope.outcome (server r))),
        { c with
          callers := c.callers ++ [.finished (.response (scope.outcome (server r)))]
          log := ⟨.caller c.callers.length, r⟩ :: c.log
          store := if scope.dropsPeer (server r) then c.store.clearPeer else c.store })

theorem sendsOnce (now : Moment) (server : Request → Except ApiError Response)
    (request : Request) (c : Console β) : c.SendsOnce now server request := by
  have hstretch := stretch_start now request c
  have hperform : c.perform (m := Id) now server (.send request) =
      serve (m := Id) now server c.callers.length 16 (c.step now (.start (.send request))) := rfl
  rw [SendsOnce, hperform]
  cases hauth : authenticate c.routes c.store request with
  | mk authenticated r =>
    rw [hauth] at hstretch
    cases authenticated with
    | error e =>
      dsimp only at hstretch ⊢
      have hdone : ((c.step now (.start (.send request))).stretch now
          c.callers.length).callers[c.callers.length]? =
            some (.finished (.response (.error e))) := by
        rw [hstretch]
        exact List.getElem?_concat_length
      rw [serve_of_finished hdone, hstretch]
      rfl
    | ok scope =>
      dsimp only at hstretch ⊢
      intro hspares
      let sent : Console β := { c.transmit (.caller c.callers.length) r with
        callers := c.callers ++ [.exchange .response (.inFlight r scope)] }
      have hwaits : sent.callers[c.callers.length]? =
          some (.exchange .response (.inFlight r scope)) := List.getElem?_concat_length
      have hanswered := stretch_answered hwaits hspares now
      have hdone : ((sent.answer c.callers.length (server r)).stretch now
          c.callers.length).callers[c.callers.length]? =
            some (.finished (.response (scope.outcome (server r)))) := by
        rw [hanswered]
        exact List.getElem?_set_self (List.getElem?_eq_some_iff.mp hwaits).1
      have hset : ∀ a, sent.callers.set c.callers.length a = c.callers ++ [a] := by simp [sent]
      have hsent : (c.step now (.start (.send request))).stretch now c.callers.length = sent :=
        hstretch
      have hfirst : ((c.step now (.start (.send request))).stretch now
          c.callers.length).callers[c.callers.length]? =
            some (.exchange .response (.inFlight r scope)) := by
        rw [hsent]
        exact hwaits
      rw [serve_of_inFlight hfirst, hsent]
      change serve (m := Id) now server c.callers.length 15
        (sent.answer c.callers.length (server r)) = _
      rw [serve_of_finished hdone, hanswered, hset]
      rfl

/-- **Failures that are none of the session's.** A caller sends a request, and either its scope is
that of a tunnel or the first answer that it gets, if any, is not of status 401. Then in every run,
whatever the others do, the request is sent once or not at all, and the steps of the caller on its
account change nothing that is shared, except that the selected peer is dropped after a rejection by
the tunnel server. If nobody interrupts the caller, what authenticating the request comes to and the
answer of the server decide all the rest. -/
theorem session_spared {goal : Goal}
    (hcaller : c.callers[caller]? = some (.exchange goal (.start c.routes asked)))
    {s : List (Moment × Event)}
    (hspared : ¬ ConcernsSession (c.routes.classify asked.path) (c.deeds caller s)) :
    c.Sidesteps caller asked (c.routes.classify asked.path) s ∧
      ∀ (d : Console β) request now server, d.SendsOnce now server request :=
  ⟨sidesteps hcaller hspared, fun d request now server => sendsOnce now server request d⟩

/-- A console with a session and a peer, and a caller that is about to send a request to the
peer. -/
def peering : Console MemoryBackend :=
  (opened ⟨[(Endpoint.proxy, .tunnelClientOrServer)]⟩
    { Store.inMemory ⟨some "A1", some "R1"⟩ with peer := some ⟨"https://peer", none⟩ }).step default
      (.start (.send { method := .get, path := Endpoint.proxy }))

/-- The peer rejects the request, and is about to be dropped. -/
def peerRejects : List (Moment × Event) :=
  [ .advance 0, .advance 0, .advance 0, .answer 0 (.ok .expired), .advance 0 ].map (default, ·)

theorem session_spared_peering :
    let d := peering.run peerRejects
    let d' := d.step default (.advance 0)
    (d.sentBy 0).length = 1 ∧ d.store.peer = some ⟨"https://peer", none⟩ ∧
      d' = { d with callers := d'.callers, store := d.store.clearPeer } := by
  intro d d'
  have hcaller : peering.callers[0]? = some (.exchange .response
      (.start peering.routes { method := .get, path := Endpoint.proxy })) := rfl
  have hscope : peering.routes.classify Endpoint.proxy = .tunnelClientOrServer := by decide
  have hspared : ¬ ConcernsSession (peering.routes.classify Endpoint.proxy)
      (peering.deeds 0 peerRejects) := by
    rintro ⟨response, -, hnot⟩
    rw [hscope] at hnot
    exact hnot (Or.inl rfl)
  obtain ⟨hsidesteps, -⟩ := session_spared hcaller hspared
  have hthere : d.callers[0]? = some (.exchange .response
      (.droppingPeer (Response.expired.errorIn .tunnelClientOrServer))) := rfl
  rcases hsidesteps.step _ _ default hthere with hsame | ⟨first, hdeeds, -⟩ | ⟨-, hdropped⟩
  · exact absurd (congrArg (fun e : Console MemoryBackend => e.store.peer) hsame) (by decide)
  · cases hdeeds
  · exact ⟨rfl, rfl, hdropped⟩

end Console

end AdminConsole
