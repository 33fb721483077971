import AdminConsole.Proofs.Console.Moves
import AdminConsole.Proofs.Redirector

/-!
# On whose account

On its way through the console a request gets credentials, perhaps an address, and is perhaps sent
again, but its path and its silence are those that were asked for (`Request.StandsFor`). So whatever
is done on account of a request is done on account of what a caller was started with:
`Console.Serves` says for every caller of a run which operation that is. In particular the user is
sent to the login page on account of a request that was asked for (`Request.MaySendAway`).

The same case analysis shows that nothing but the end of a lost session is reported as an expired
session (`Exchange.eq_of_saysExpired`), unless a transport makes that error up.
-/

namespace AdminConsole

open AdminConsole.Time

/-! ### What a request keeps -/

/-- The request goes where the other one was to go, and is as silent. -/
structure Request.StandsFor (request asked : Request) : Prop where
  path : request.path = asked.path
  silent : request.options.silent = asked.options.silent

/-- Only a request that is not silent and goes elsewhere than to where users sign in may send the
user away. -/
structure Request.MaySendAway (request : Request) : Prop where
  loud : request.options.silent = false
  route : request.route ≠ Endpoint.signIn

namespace Redirector

variable {request asked : Request} {r : Redirector}

theorem maySendAway_of_mark (hlogin : r.loginPath = Endpoint.signIn)
    (hstands : request.StandsFor asked) {generation : Nat}
    (h : (r.mark request generation).1 = true) : asked.MaySendAway := by
  obtain ⟨hloud, helsewhere⟩ := eligible_iff.mp (mark_fst_eq_true.mp h).1
  have hroute : request.route = asked.route := congrArg Path.cut hstands.path
  rw [hroute, hlogin] at helsewhere
  exact ⟨hstands.silent.symm.trans hloud, helsewhere⟩

end Redirector

namespace Attachment

variable {β : Type} {store : Store β} {request asked : Request}

theorem exists_withBearer_eq {r : Request} {token : String} (h : withBearer request token = .ok r) :
    ∃ headers, r = { request with headers := headers } := by
  unfold withBearer at h
  split at h
  · cases h
    exact ⟨_, rfl⟩
  · cases h

theorem exists_routed_eq (request : Request) (peer : Peer) :
    ∃ headers baseUrl, (routed request peer).1 =
      { request with
        headers := headers
        options := { request.options with baseUrl := baseUrl } } := by
  obtain ⟨method, path, body, headers, ⟨silent, bypassAuth, baseUrl⟩, retried⟩ := request
  -- whether the request keeps its address or gets that of the peer makes no difference
  cases baseUrl <;>
  · dsimp only [routed]
    split
    · split
      · rename_i hbearer
        obtain ⟨headers, rfl⟩ := exists_withBearer_eq hbearer
        exact ⟨_, _, rfl⟩
      · exact ⟨_, _, rfl⟩
    · exact ⟨_, _, rfl⟩

/-- **Frame.** Attaching a credential changes nothing but the headers and the address. -/
theorem exists_attach_eq (store : Store β) (request : Request) (a : Attachment) :
    ∃ headers baseUrl, (a.attach store request).request =
      { request with
        headers := headers
        options := { request.options with baseUrl := baseUrl } } := by
  cases a with
  | bearer sources =>
    cases sources with
    | nil => exact ⟨_, _, rfl⟩
    | cons key keys =>
      simp only [attach]
      split
      · cases hbearer : withBearer request _ with
        | ok r =>
          obtain ⟨headers, rfl⟩ := exists_withBearer_eq hbearer
          exact ⟨headers, _, rfl⟩
        | error e => exact ⟨_, _, rfl⟩
      · exact ⟨_, _, rfl⟩
  | tunnelToken =>
    simp only [attach, withTunnelToken]
    split
    · split <;> exact ⟨_, _, rfl⟩
    · exact ⟨_, _, rfl⟩
  | peer =>
    simp only [attach]
    split
    · exact exists_routed_eq request _
    · exact ⟨_, _, rfl⟩

/-- Attaching a credential leaves path and silence alone. -/
theorem standsFor_attach (store : Store β) (request : Request) (a : Attachment) :
    (a.attach store request).request.StandsFor request := by
  obtain ⟨headers, baseUrl, heq⟩ := exists_attach_eq store request a
  rw [heq]
  exact ⟨rfl, rfl⟩

/-- Attaching a credential does not mark the request. -/
theorem retried_attach (store : Store β) (request : Request) (a : Attachment) :
    (a.attach store request).request.retried = request.retried := by
  obtain ⟨headers, baseUrl, heq⟩ := exists_attach_eq store request a
  rw [heq]

/-- What cannot be attached makes a request that cannot be sent. -/
theorem exists_fault_of_failure {a : Attachment} {e : ApiError}
    (h : (a.attach store request).failure = some e) : ∃ fault, e = .invalidRequest fault := by
  have hbearer : ∀ {r : Request} {token : String}, withBearer r token = .error e →
      ∃ fault, e = .invalidRequest fault := by
    intro r token hr
    unfold withBearer at hr
    split at hr
    · cases hr
    · cases hr
      exact ⟨_, rfl⟩
  cases a with
  | bearer sources =>
    cases sources with
    | nil => cases h
    | cons key keys =>
      simp only [attach] at h
      split at h
      · cases hr : withBearer request _ with
        | ok r =>
          rw [hr] at h
          cases h
        | error e' =>
          rw [hr] at h
          cases h
          exact hbearer hr
      · cases h
  | tunnelToken =>
    simp only [attach, withTunnelToken] at h
    split at h
    · split at h
      · cases h
      · cases h
        exact ⟨_, rfl⟩
    · cases h
  | peer =>
    simp only [attach] at h
    split at h
    · unfold routed at h
      dsimp only at h
      split at h
      · split at h
        · cases h
        · rename_i hr
          cases h
          exact hbearer hr
      · cases h
    · cases h

end Attachment

/-! ### Errors that say that the session has expired -/

/-- The error says that the session could not be recovered. -/
def ApiError.isSessionExpired : ApiError → Bool
  | .sessionExpired _ => true
  | _ => false

theorem ApiError.isSessionExpired_ofResponse (response : Response) :
    (ApiError.ofResponse response).isSessionExpired = false := by
  unfold ofResponse
  dsimp only
  repeat' split
  all_goals rfl

namespace Exchange

/-- The request is over, and it is said that the session has expired. -/
def saysExpired : Exchange → Bool
  | .finished (.error e) => e.isSessionExpired
  | _ => false

/-- The request under way stands for the one that was asked for, a peer is dropped for another
reason than that the session has expired, and the user is sent away only if the request may do so.
-/
def Serves (asked : Request) : Exchange → Prop
  | .preparing request _ _ | .inFlight request _ | .failed request _ _ | .joining request _ _
  | .waiting request _ _ _ | .reconsidering request _ _ | .clearing request _ | .cleared request _
  | .redirecting request _ _ => request.StandsFor asked
  | .droppingPeer e => e.isSessionExpired = false
  | .navigating _ => asked.MaySendAway
  | .finished _ => True

variable {asked request : Request}

theorem serves_start (routes : RouteTable) (request : Request) :
    (start routes request).Serves request := ⟨rfl, rfl⟩

/-- The request that finds a token is the one that serves. -/
theorem serves_of_finds {β : Type} {c : Console β} {x : Exchange} {scope : Scope} {token : String}
    (hfinds : x.Finds c request scope token) (h : x.Serves asked) : request.StandsFor asked := by
  cases hfinds <;> exact h

theorem Serves.answer {x : Exchange} (h : x.Serves asked) (result : Except ApiError Response) :
    (x.answer result).Serves asked := by
  cases x with
  | inFlight request scope =>
    cases result with
    | error e => trivial
    | ok response =>
      simp only [Exchange.answer]
      split
      · trivial
      · exact h
  | _ => exact h

section Steps

variable {β : Type} [Backend β] {c : Console β} {x : Exchange}

theorem Serves.step (h : x.Serves asked) (hlogin : c.redirector.loginPath = Endpoint.signIn)
    (now : Moment) (caller : Nat) : (c.stepExchange now caller x).1.Serves asked := by
  generalize hy : (c.stepExchange now caller x).1 = y
  cases stepsTo_of_stepExchange hy with
  | attached request scope a rest hfailure =>
    have hattach := Attachment.standsFor_attach c.store request a
    exact ⟨hattach.path.trans h.path, hattach.silent.trans h.silent⟩
  | replayed hfinds hreplay =>
    have hserves := serves_of_finds hfinds h
    rw [Request.eq_of_replayWith? hreplay]
    exact ⟨hserves.path, hserves.silent⟩
  | marks said hfirst => exact Redirector.maySendAway_of_mark hlogin h hfirst
  | leavesPeer | unsendable | propagates | namesScope | unreplayable | dropsPeer | passes
  | navigates | ended => trivial
  | _ => exact h

end Steps

end Exchange

/-! ### Operations -/

/-- The request that an operation sends first. -/
def Operation.request? : Operation → Option Request
  | .send request | .recover request _ _ => some request
  | .login email password => some (Identity.signInRequest email password)
  | .logout => some Identity.signOutRequest
  | .tunnelLogin username password => some (Identity.tunnelLoginRequest username password)
  | .refresh | .write _ | .rearm | .redirect _ _ => none

/-- The caller sends the user to the login page by itself, on account of no request of its own. -/
def Operation.isRedirect : Operation → Bool
  | .redirect _ _ => true
  | _ => false

/-- What a new caller asks for. -/
def Event.operation? : Event → Option Operation
  | .start op => some op
  | _ => none

/-- What the callers of a run ask for, first one first. -/
def operations (s : List (Moment × Event)) : List Operation := s.filterMap fun x => x.2.operation?

theorem operations_cons (now : Moment) (e : Event) (s : List (Moment × Event)) :
    operations ((now, e) :: s) = e.operation?.toList ++ operations s := by
  cases hop : e.operation? <;> simp [operations, hop]

/-- The caller stands where one may stand who asked for this, and it is on account of that if it has
a request under way. -/
def Activity.Serves (op : Operation) : Activity → Prop
  | .exchange _ x => ∃ request, op.request? = some request ∧ x.Serves request
  | .leaving => op.request? = some Identity.signOutRequest
  | .redirecting _ _ | .navigating => op.isRedirect = true
  | _ => True

theorem Activity.serves_start (routes : RouteTable) (op : Operation) :
    (Activity.start routes op).Serves op := by
  cases op with
  | send request => exact ⟨_, rfl, Exchange.serves_start routes request⟩
  | recover request scope response => exact ⟨_, rfl, rfl, rfl⟩
  | login email password => exact ⟨_, rfl, Exchange.serves_start routes _⟩
  | tunnelLogin username password => exact ⟨_, rfl, Exchange.serves_start routes _⟩
  | logout => rfl
  | redirect request generation => rfl
  | _ => trivial

theorem Goal.serves_next (goal : Goal) (result : Except ApiError Response) (op : Operation) :
    (goal.next result).Serves op := by
  cases goal with
  | response => trivial
  | signIn =>
    simp only [next]
    split <;> trivial
  | tunnelSignIn =>
    simp only [next]
    split <;> trivial
  | signOut => trivial

theorem Activity.Serves.step {β : Type} [Backend β] {c : Console β} {op : Operation}
    {a : Activity} (h : a.Serves op) (hlogin : c.redirector.loginPath = Endpoint.signIn)
    (now : Moment) (caller : Nat) : (c.stepActivity now caller a).1.Serves op := by
  cases a with
  | exchange goal x =>
    by_cases hover : ∃ result, x = .finished result
    · obtain ⟨result, rfl⟩ := hover
      exact goal.serves_next result op
    · obtain ⟨request, hrequest, hx⟩ := h
      rw [Console.stepActivity_exchange now caller goal c (not_exists.mp hover)]
      exact ⟨request, hrequest, hx.step hlogin now caller⟩
  | leaving =>
    simp only [Console.stepActivity]
    split
    · exact ⟨_, h, Exchange.serves_start c.routes _⟩
    · trivial
  | joining sent =>
    simp only [Console.stepActivity]
    split <;> trivial
  | waiting id =>
    simp only [Console.stepActivity]
    split <;> trivial
  | redirecting request generation =>
    simp only [Console.stepActivity]
    split
    · exact h
    · trivial
  | _ => trivial

namespace Console

variable {β : Type} {c : Console β} {ops : List Operation}

/-- Each caller acts on account of what it was started with. -/
structure Serves (ops : List Operation) (c : Console β) : Prop where
  length : c.callers.length = ops.length
  serves : ∀ (k : Nat) (a : Activity), c.callers[k]? = some a →
    ∃ op, ops[k]? = some op ∧ a.Serves op

variable [Backend β]

theorem Serves.step (h : c.Serves ops) (hlogin : c.redirector.loginPath = Endpoint.signIn)
    (now : Moment) (e : Event) : (c.step now e).Serves (ops ++ e.operation?.toList) where
  length := by
    cases e with
    | start op => simp [Console.step, Event.operation?, h.length]
    | _ =>
      rw [length_callers_step_of_not_start (by simp) now c, h.length]
      exact congrArg List.length (List.append_nil ops).symm
  serves k b hb := by
    rcases onward_of_getElem? hb with ⟨a, ha, hmove⟩ | ⟨op, rfl, rfl, rfl⟩
    · obtain ⟨op, hop, hserves⟩ := h.serves k a ha
      refine ⟨op, ?_, ?_⟩
      · rw [List.getElem?_append_left (List.getElem?_eq_some_iff.mp hop).1, hop]
      · cases hmove with
        | stayed => exact hserves
        | stepped => exact hserves.step hlogin now k
        | answered result =>
          obtain ⟨request, hrequest, hx⟩ := hserves
          exact ⟨request, hrequest, hx.answer result⟩
        | left => trivial
    · refine ⟨op, ?_, Activity.serves_start c.routes op⟩
      rw [h.length]
      exact List.getElem?_concat_length

end Console

end AdminConsole
