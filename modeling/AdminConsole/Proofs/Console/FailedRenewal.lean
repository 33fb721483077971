import AdminConsole.Proofs.Console.RenewalStages
import AdminConsole.Proofs.Redirector

/-!
# The stages of a failed renewal

The access token of a session has expired and its refresh token brings no other: the server rejects
every request, and the renewal comes to nothing. Any number of callers send requests of the
session's own scope. This file follows one caller and the one cycle that was to renew the session.

Until the cycle fails (`Lapse.turn`), whoever is rejected waits for it; from then on the session is
empty, and whoever is rejected gives up. `Lapse.Stage` is how far a caller has come. It depends on
the others through three facts only, that the cycle exists, that the session is empty and that the
user was sent to the login page, none of which is ever taken back (`Lapse.Stage.mono`).
-/

namespace AdminConsole

open AdminConsole.Text AdminConsole.Time

/-! ### Renewals that fail -/

/-- An answer to a renewal that brings no access token: none at all, one that is no success, or one
whose body has no access token but blanks. -/
inductive Renewal.Fails : Except ApiError Response → Prop
  | unanswered (e : ApiError) : Fails (.error e)
  | refused {response : Response} (hstatus : response.status.isSuccess = false) :
      Fails (.ok response)
  | unusable {response : Response} (hbody : ∀ tokens,
      RenewedTokens.ofBody? response.body = some tokens → isBlank tokens.access = true) :
      Fails (.ok response)

theorem Renewal.Fails.exists_failure {result : Except ApiError Response}
    (h : Renewal.Fails result) : ∃ failure, Renewal.tokens result = .error failure := by
  cases h with
  | unanswered e => exact ⟨_, rfl⟩
  | @refused response hstatus =>
    refine ⟨.rejected response.status, ?_⟩
    simp only [Renewal.tokens, hstatus, Bool.false_eq_true, not_false_eq_true, if_true]
  | @unusable response hbody =>
    cases hstatus : response.status.isSuccess with
    | false =>
      refine ⟨.rejected response.status, ?_⟩
      simp only [Renewal.tokens, hstatus, Bool.false_eq_true, not_false_eq_true, if_true]
    | true =>
      refine ⟨.missingToken, ?_⟩
      simp only [Renewal.tokens, hstatus, not_true_eq_false, if_false]
      cases htokens : RenewedTokens.ofBody? response.body with
      | none => rfl
      | some tokens => simp only [hbody tokens htokens, if_true]

/-! ### Sessions that lapse -/

/-- The tokens of a session that can not be renewed: the access token can be read back from a
header. -/
structure Lapse where
  old : String
  used : String
  old_visible : HeaderValue.isReadable old = true

/-- The caller waits for this cycle. -/
def Activity.waitsFor (id : CycleId) : Activity → Bool
  | .exchange _ (.waiting _ _ _ cycle) => cycle == id
  | _ => false

/-- The caller is about to send the user to the login page on account of its request. -/
def Activity.isNavigating : Activity → Bool
  | .exchange _ (.navigating _) => true
  | _ => false

namespace Lapse

/-- The session before the renewal fails. Afterwards it is empty. -/
def before (l : Lapse) : TokenPair := ⟨some l.old, some l.used⟩

/-- What the cycle makes of the session. -/
def turn (l : Lapse) : Turn where
  used := l.used
  before := l.before
  after := {}
  brings tokens := ∃ failure, tokens = .error failure
  tells outcome := ∃ failure, outcome = .error failure
  holds := rfl
  changes h := Option.some_ne_none _ (congrArg TokenPair.access h)
  writes := by
    rintro _ ⟨failure, rfl⟩
    rfl
  reports := by
    rintro _ ⟨failure, rfl⟩
    exact ⟨failure, rfl⟩

variable {β : Type} {l : Lapse} {n : CycleId} {c c' : Console β}

/-! ### How far a caller has come -/

/-- A request that carries the old token, or that is looked at when the session is empty. -/
def Known (l : Lapse) (c : Console β) (request : Request) : Prop :=
  request.Carries l.old ∨ c.store.session = {}

/-- How far a caller has come with the request that it was asked to send and the one answer it gets,
and what it has sent. In the end the user was sent to the login page in the session of this
generation, unless the request is a silent one. -/
inductive Stage (l : Lapse) (n : CycleId) (generation : Nat) (asked : Request)
    (response : Response) (c : Console β) : Activity → List Request → Prop
  | attaching :
      Stage l n generation asked response c
        (.exchange .response (.preparing asked .primary [.bearer [.access]])) []
  | skipping (hempty : c.store.session = {}) :
      Stage l n generation asked response c
        (.exchange .response (.preparing asked .primary [.bearer []])) []
  | sending (headers : Headers) (hknown : l.Known c { asked with headers := headers }) :
      Stage l n generation asked response c
        (.exchange .response (.preparing { asked with headers := headers } .primary [])) []
  | awaiting (headers : Headers) (hknown : l.Known c { asked with headers := headers }) :
      Stage l n generation asked response c
        (.exchange .response (.inFlight { asked with headers := headers } .primary))
        [{ asked with headers := headers }]
  | rejected (headers : Headers) (hknown : l.Known c { asked with headers := headers }) :
      Stage l n generation asked response c
        (.exchange .response (.failed { asked with headers := headers } .primary response))
        [{ asked with headers := headers }]
  | joining (headers : Headers) (hknown : l.Known c { asked with headers := headers }) :
      Stage l n generation asked response c
        (.exchange .response (.joining { asked with headers := headers } .primary response))
        [{ asked with headers := headers }]
  | waiting (headers : Headers) (hstarted : n < c.cycles.length) :
      Stage l n generation asked response c
        (.exchange .response (.waiting { asked with headers := headers } .primary response n))
        [{ asked with headers := headers }]
  | reconsidering (headers : Headers) (hempty : c.store.session = {}) :
      Stage l n generation asked response c
        (.exchange .response (.reconsidering { asked with headers := headers } .primary response))
        [{ asked with headers := headers }]
  | clearing (headers : Headers) (hempty : c.store.session = {}) :
      Stage l n generation asked response c
        (.exchange .response
          (.clearing { asked with headers := headers } (ApiError.saidIn response.body)))
        [{ asked with headers := headers }]
  | cleared (headers : Headers) (hempty : c.store.session = {}) :
      Stage l n generation asked response c
        (.exchange .response
          (.cleared { asked with headers := headers } (ApiError.saidIn response.body)))
        [{ asked with headers := headers }]
  | redirecting (headers : Headers) (hempty : c.store.session = {}) :
      Stage l n generation asked response c
        (.exchange .response (.redirecting { asked with headers := headers }
          (ApiError.saidIn response.body) generation))
        [{ asked with headers := headers }]
  | navigating (headers : Headers) (hempty : c.store.session = {})
      (haway : c.redirector.onLogin = some generation) :
      Stage l n generation asked response c
        (.exchange .response (.navigating (ApiError.saidIn response.body)))
        [{ asked with headers := headers }]
  | ended (headers : Headers) (hempty : c.store.session = {})
      (haway : asked.options.silent = false → c.redirector.onLogin = some generation) :
      Stage l n generation asked response c
        (.exchange .response
          (.finished (.error (.sessionExpired (ApiError.saidIn response.body)))))
        [{ asked with headers := headers }]
  | done (headers : Headers) (hempty : c.store.session = {})
      (haway : asked.options.silent = false → c.redirector.onLogin = some generation) :
      Stage l n generation asked response c
        (.finished (.response (.error (.sessionExpired (ApiError.saidIn response.body)))))
        [{ asked with headers := headers }]

/-- Nothing has taken the place of what the request carries, neither before nor after the cycle
fails. -/
theorem Known.replacement?_eq_none {request : Request} (h : l.Known c request)
    (hphase : l.turn.Phase n c) : replacement? c.store.session.access request.bearer = none := by
  rcases hphase.session with hsession | hsession
  · have hcarries := h.resolve_right (hsession ▸ l.turn.changes)
    rw [hcarries.bearer l.old_visible, hsession]
    exact replacement?_eq_none_iff.mpr (Or.inr rfl)
  · rw [hsession]
    rfl

variable {generation : Nat} {asked : Request} {response : Response} {a : Activity}
  {sent : List Request}

/-- What a caller depends on is not taken back. -/
structure Onward (generation : Nat) (c c' : Console β) : Prop where
  cycles : c.cycles.length ≤ c'.cycles.length
  empty : c.store.session = {} → c'.store.session = {}
  away : c.redirector.onLogin = some generation → c'.redirector.onLogin = some generation

/-- A caller does not fall back while the others and the cycle go on. -/
theorem Stage.mono (h : Stage l n generation asked response c a sent)
    (hon : Onward generation c c') : Stage l n generation asked response c' a sent := by
  cases h with
  | attaching => exact .attaching
  | skipping hempty => exact .skipping (hon.empty hempty)
  | sending headers hknown => exact .sending headers (hknown.imp_right hon.empty)
  | awaiting headers hknown => exact .awaiting headers (hknown.imp_right hon.empty)
  | rejected headers hknown => exact .rejected headers (hknown.imp_right hon.empty)
  | joining headers hknown => exact .joining headers (hknown.imp_right hon.empty)
  | waiting headers hstarted => exact .waiting headers (Nat.lt_of_lt_of_le hstarted hon.cycles)
  | reconsidering headers hempty => exact .reconsidering headers (hon.empty hempty)
  | clearing headers hempty => exact .clearing headers (hon.empty hempty)
  | cleared headers hempty => exact .cleared headers (hon.empty hempty)
  | redirecting headers hempty => exact .redirecting headers (hon.empty hempty)
  | navigating headers hempty haway => exact .navigating headers (hon.empty hempty) (hon.away haway)
  | ended headers hempty haway =>
    exact .ended headers (hon.empty hempty) fun hsilent => hon.away (haway hsilent)
  | done headers hempty haway =>
    exact .done headers (hon.empty hempty) fun hsilent => hon.away (haway hsilent)

/-- A caller that waits for an answer has sent one request. -/
theorem Stage.length_of_inFlight {goal : Goal} {request : Request} {scope : Scope}
    (h : Stage l n generation asked response c (.exchange goal (.inFlight request scope)) sent) :
    sent.length = 1 := by
  cases h with
  | awaiting headers hknown => rfl

/-- What an answer makes of a caller: its request is rejected. -/
theorem Stage.answer {goal : Goal} {x : Exchange} {result : Except ApiError Response}
    (h : Stage l n generation asked response c (.exchange goal x) sent)
    (hstatus : response.status.code = 401)
    (hresult : ∀ request scope, x = .inFlight request scope → result = .ok response) :
    Stage l n generation asked response c (.exchange goal (x.answer result)) sent := by
  have hsame := h
  cases h with
  | awaiting headers hknown =>
    obtain rfl := hresult _ _ rfl
    have hfailure := Status.isSuccess_of_unauthorized hstatus
    simp only [Exchange.answer, hfailure, Bool.false_eq_true, if_false]
    exact .rejected headers hknown
  | _ => exact hsame

/-- What a step of a caller comes to: it is a matter of the caller alone, or the caller sends its
request, or starts the cycle, or clears a session that is empty, or has to do with the redirector.
-/
inductive Move (l : Lapse) (n : CycleId) (generation : Nat) (asked : Request)
    (response : Response) (caller : Nat) (c : Console β) (sent : List Request) :
    Activity × Console β → Prop
  | alone {a : Activity} (h : Stage l n generation asked response c a sent) :
      Move l n generation asked response caller c sent (a, c)
  | sends {a : Activity} {request : Request}
      (h : Stage l n generation asked response c a (sent ++ [request])) :
      Move l n generation asked response caller c sent (a, c.transmit (.caller caller) request)
  | starts {a : Activity} {c' : Console β} (hidle : c.cycles.length = n)
      (hstart : c' = { c with
        pending := some n
        cycles := c.cycles ++ [{ refreshToken := l.used }] })
      (hsession : c.store.session = l.before) (hwaits : a.waitsFor n = true)
      (h : Stage l n generation asked response c' a sent) :
      Move l n generation asked response caller c sent (a, c')
  | clears {a : Activity} {store : Store β} (hbefore : c.store.session = {})
      (hafter : store.session = {}) (hgeneration : store.generation = c.store.generation)
      (h : Stage l n generation asked response { c with store := store } a sent) :
      Move l n generation asked response caller c sent (a, { c with store := store })
  | turns {a : Activity} {redirector : Redirector}
      (haway : c.redirector.onLogin = some generation → redirector.onLogin = some generation)
      (h : Stage l n generation asked response { c with redirector := redirector } a sent) :
      Move l n generation asked response caller c sent (a, { c with redirector := redirector })

variable [Backend β]

/-! ### Steps of a caller -/

/-- Without an access token nothing is attached. -/
theorem stepExchange_attach_none (haccess : c.store.session.access = none) (now : Moment)
    (caller : Nat) (request : Request) (scope : Scope) :
    c.stepExchange now caller (.preparing request scope [.bearer [.access]]) =
      (.preparing request scope [.bearer []], c) := by
  have hget : c.store.get .access = none := haccess
  simp only [Console.stepExchange, Attachment.attach, hget, Option.toList_some, List.append_nil]

theorem Stage.move_attaching (hphase : l.turn.Phase n c) (now : Moment) (caller : Nat) :
    Move l n generation asked response caller c []
      (c.stepActivity now caller
        (.exchange .response (.preparing asked .primary [.bearer [.access]]))) := by
  rw [Console.stepActivity_exchange now caller .response c (by simp)]
  rcases hphase.session with hsession | hsession
  · have hvalid := HeaderValue.isValid_of_isReadable l.old_visible
    have haccess : c.store.session.access = some l.old := congrArg TokenPair.access hsession
    rw [Console.stepExchange_attach haccess hvalid now caller asked .primary]
    exact .alone (.sending _ (Or.inl (asked.carries_withAuthorization l.old)))
  · have haccess : c.store.session.access = none := congrArg TokenPair.access hsession
    rw [stepExchange_attach_none haccess now caller asked .primary]
    exact .alone (.skipping hsession)

/-- Before the cycle fails, a rejected request is a reason to wait for it; afterwards it is the end
of the session. -/
theorem Stage.move_rejected {headers : Headers}
    (hknown : l.Known c { asked with headers := headers }) (hasked : asked.IsRecoverable)
    (hstatus : response.status.code = 401) (hphase : l.turn.Phase n c) (now : Moment)
    (caller : Nat) :
    Move l n generation asked response caller c [{ asked with headers := headers }]
      (c.stepActivity now caller
        (.exchange .response
          (.failed { asked with headers := headers } .primary response))) := by
  have hrecoverable : ({ asked with headers := headers } : Request).IsRecoverable :=
    ⟨hasked.unsent, hasked.route_ne⟩
  have hdecide := FailureContext.decide_of_isRecoverable hrecoverable hstatus
    c.store.session.access c.store.session.refresh
  rw [hknown.replacement?_eq_none hphase] at hdecide
  rw [Console.stepActivity_exchange now caller .response c (by simp), Console.stepExchange]
  rcases hphase.session with hsession | hsession
  · have hrefresh : c.store.session.refresh.isSome = true := by
      rw [hsession]
      rfl
    simp only [hdecide, hrefresh, if_true, Exchange.decided]
    exact .alone (.joining headers hknown)
  · have hrefresh : c.store.session.refresh.isSome = false := by
      rw [hsession]
      rfl
    simp only [hdecide, hrefresh, Bool.false_eq_true, if_false, Exchange.decided,
      ApiError.said_ofResponse_of_unauthorized hstatus]
    exact .alone (.clearing headers hsession)

theorem Stage.move_joining {headers : Headers}
    (hknown : l.Known c { asked with headers := headers }) (hphase : l.turn.Phase n c)
    (now : Moment) (caller : Nat) :
    Move l n generation asked response caller c [{ asked with headers := headers }]
      (c.stepActivity now caller
        (.exchange .response
          (.joining { asked with headers := headers } .primary response))) := by
  have hkept := hknown.replacement?_eq_none hphase
  rw [Console.stepActivity_exchange now caller .response c (by simp), Console.stepExchange]
  rcases hphase.session with hsession | hsession
  · rcases hphase.slot_of_before hsession with ⟨hslot, hlength⟩ | ⟨hslot, hlength⟩
    · have hrefresh : c.store.session.refresh = some l.used :=
        congrArg TokenPair.refresh hsession
      rw [Console.joinOrStart_start hslot hkept hrefresh, hlength]
      refine .starts hlength rfl hsession (beq_self_eq_true n) (.waiting headers ?_)
      simp [hlength]
    · rw [Console.joinOrStart_of_pending hslot]
      exact .alone (.waiting headers (hlength ▸ Nat.lt_succ_self n))
  -- too late: the session is gone, though the slot may not have been emptied yet
  · rcases hphase.slot_of_after hsession with hslot | hslot
    · have hrefresh : c.store.session.refresh = none := congrArg TokenPair.refresh hsession
      rw [Console.joinOrStart_of_no_refresh hslot hkept hrefresh]
      exact .alone (.reconsidering headers hsession)
    · rw [Console.joinOrStart_of_pending hslot]
      exact .alone (.waiting headers (hphase.started_of_after hsession))

theorem Stage.move_waiting {headers : Headers} (hstarted : n < c.cycles.length)
    (hphase : l.turn.Phase n c) (now : Moment) (caller : Nat) :
    Move l n generation asked response caller c [{ asked with headers := headers }]
      (c.stepActivity now caller
        (.exchange .response
          (.waiting { asked with headers := headers } .primary response n))) := by
  rw [Console.stepActivity_exchange now caller .response c (by simp), Console.stepExchange]
  rcases hphase.outcome? with houtcome | ⟨_, houtcome, ⟨failure, rfl⟩, hsession⟩
  · rw [houtcome]
    exact .alone (.waiting headers hstarted)
  · rw [houtcome]
    exact .alone (.reconsidering headers hsession)

/-- In an empty session there is nothing to send the request again with. -/
theorem Stage.move_reconsidering {headers : Headers} (hempty : c.store.session = {})
    (hstatus : response.status.code = 401) (now : Moment) (caller : Nat) :
    Move l n generation asked response caller c [{ asked with headers := headers }]
      (c.stepActivity now caller
        (.exchange .response
          (.reconsidering { asked with headers := headers } .primary response))) := by
  have hget : c.store.get .access = none := congrArg TokenPair.access hempty
  rw [Console.stepActivity_exchange now caller .response c (by simp), Console.stepExchange, hget,
    ApiError.said_ofResponse_of_unauthorized hstatus]
  exact .alone (.clearing headers hempty)

/-- The user is to be sent to the login page, unless that was done in this session or the request is
a silent one. -/
theorem Stage.move_redirecting {headers : Headers} (hempty : c.store.session = {})
    (hroute : asked.route ≠ c.redirector.loginPath) (now : Moment) (caller : Nat) :
    Move l n generation asked response caller c [{ asked with headers := headers }]
      (c.stepActivity now caller
        (.exchange .response (.redirecting { asked with headers := headers }
          (ApiError.saidIn response.body) generation))) := by
  let request : Request := { asked with headers := headers }
  have hkept : c.redirector.onLogin = some generation →
      (c.redirector.mark request generation).2.onLogin = some generation :=
    fun haway => Redirector.onLogin_mark_of_onLogin haway request
  cases hfirst : (c.redirector.mark request generation).1 with
  | true =>
    rw [Console.stepActivity_redirecting_of_first hfirst]
    refine .turns hkept (.navigating headers hempty ?_)
    rw [Redirector.mark_snd_of_fst hfirst]
    rfl
  | false =>
    rw [Console.stepActivity_redirecting_of_not_first hfirst]
    exact .turns hkept (.ended headers hempty fun hsilent =>
      Redirector.onLogin_mark hsilent hroute generation)

/-- **Steps of a caller.** From where a caller may stand it gets to where a caller may stand. -/
theorem Stage.move (h : Stage l n generation asked response c a sent)
    (hasked : asked.IsRecoverable) (hroute : asked.route ≠ c.redirector.loginPath)
    (hstatus : response.status.code = 401) (hphase : l.turn.Phase n c)
    (hgeneration : c.store.generation = generation) (now : Moment) (caller : Nat) :
    Move l n generation asked response caller c sent (c.stepActivity now caller a) := by
  cases h with
  | attaching => exact Stage.move_attaching hphase now caller
  | skipping hempty => exact .alone (.sending asked.headers (Or.inr hempty))
  | sending headers hknown => exact .sends (.awaiting headers hknown)
  | awaiting headers hknown => exact .alone (.awaiting headers hknown)
  | rejected headers hknown =>
    exact Stage.move_rejected hknown hasked hstatus hphase now caller
  | joining headers hknown => exact Stage.move_joining hknown hphase now caller
  | waiting headers hstarted => exact Stage.move_waiting hstarted hphase now caller
  | reconsidering headers hempty => exact Stage.move_reconsidering hempty hstatus now caller
  | clearing headers hempty => exact .clears hempty rfl rfl (.cleared headers rfl)
  | cleared headers hempty =>
    subst hgeneration
    exact .alone (.redirecting headers hempty)
  | redirecting headers hempty => exact Stage.move_redirecting hempty hroute now caller
  | navigating headers hempty haway =>
    exact .turns id (.ended headers hempty fun _ => haway)
  | ended headers hempty haway => exact .alone (.done headers hempty haway)
  | done headers hempty haway => exact .alone (.done headers hempty haway)

/-- Whoever waits for a cycle goes on waiting until there is something to hear. -/
theorem waitsFor_stepActivity {id : CycleId} (hwaits : a.waitsFor id = true)
    (htold : c.outcome? id = none) (now : Moment) (caller : Nat) :
    (c.stepActivity now caller a).1.waitsFor id = true := by
  cases a with
  | exchange goal x =>
    cases x with
    | waiting request scope response cycle =>
      obtain rfl : cycle = id := by simpa [Activity.waitsFor] using hwaits
      rw [Console.stepActivity_exchange now caller goal c (by simp), Console.stepExchange, htold]
      exact hwaits
    | _ => cases hwaits
  | _ => cases hwaits

end Lapse

end AdminConsole
