import AdminConsole.Proofs.Authenticate
import AdminConsole.Proofs.Console.CycleEnds
import AdminConsole.Proofs.Console.RejectedReplay
import AdminConsole.Proofs.Console.SparedSession

/-!
# Recognising the token that was sent

A rejected request is worth a renewal if the session still holds the token that the request was sent
with; if it holds another one, the request is sent again with that. To tell the two apart the token
is read back from the header of the request. But more can be written into a header than can be read
back from it: a character outside ASCII may stand there, and then the whole value says nothing.

So `sent_token_recognised_iff` has two halves. A token of visible characters is recognised, and the
rejection leads to a renewal. Any other token is taken for one that was replaced meanwhile: the
request is sent once more with the very token that was rejected, and after the second rejection the
session is cleared, although nobody has tried to renew it (`unreadable_token_lost`).
-/

namespace AdminConsole

open AdminConsole.Time HeaderValue

variable {β : Type} {request sent : Request} {access refresh : String}

/-! ### Writing the token and reading it back -/

/-- A request of the session's own scope gets the access token and nothing else. -/
theorem authenticate_of_primary {routes : RouteTable} {store : Store β}
    (hscope : routes.classify request.path = .primary)
    (hbypass : request.options.bypassAuth = false)
    (haccess : store.session.access = some access) (hvalid : isValid access = true) :
    authenticate routes store request =
      (.ok .primary, request.withAuthorization (bearerScheme ++ access)) := by
  have hsupply : store.supplyFor .primary request.path = ⟨some access, none, none⟩ := by
    rw [Store.supplyFor, ← haccess]
    rfl
  have hauth := authenticate_eq routes store hbypass
  simp only [hscope, hsupply] at hauth
  rw [if_pos (by simp [Supply.isFit, Supply.peerToken, hvalid])] at hauth
  rw [hauth, Supply.fill]
  simp only [Option.map_some, Option.some_or, Option.none_or, Option.map_none, Option.or_none]
  rfl

/-- **Reading back.** Exactly the visible tokens can be read back from the requests they were
attached to. -/
theorem Request.bearer_withAuthorization (request : Request) (access : String) :
    (request.withAuthorization (bearerScheme ++ access)).bearer =
      if isReadable access then some access else none :=
  bearer?_bearerScheme_append access

namespace Console

variable [Backend β] {c : Console β} {caller : Nat} {goal : Goal} {response : Response}

/-! ### What a rejection leads to -/

/-- The caller looks for a cycle to renew the session by, and changes nothing else. If it finds the
slot empty and the session as it was, it starts one with the refresh token of the session. -/
structure Renews (caller : Nat) (goal : Goal) (sent : Request) (response : Response)
    (session : TokenPair) (c : Console β) : Prop where
  looks : ∀ now, c.advance now caller = { c with
    callers := c.callers.set caller (.exchange goal (.joining sent .primary response)) }
  joins : ∀ now (t : List (Moment × Event)), (∀ x ∈ t, x.2.sparesCaller caller = true) →
    let d := (c.advance now caller).run t
    ∀ id m, d.pending = some id → d.advance m caller = { d with
      callers := d.callers.set caller (.exchange goal (.waiting sent .primary response id)) }
  starts : ∀ now (t : List (Moment × Event)), (∀ x ∈ t, x.2.sparesCaller caller = true) →
    let d := (c.advance now caller).run t
    ∀ refresh m, d.pending = none → d.store.session = session → session.refresh = some refresh →
      StartsCycle caller refresh d (d.advance m caller)

/-- The caller sends the request again as it was, and changes nothing else. When the replay is
rejected as well, the session is cleared, whichever it is by then, and no cycle is looked for. -/
structure Resends (caller : Nat) (goal : Goal) (sent : Request) (c : Console β) : Prop where
  looks : ∀ now, c.advance now caller = { c with
    callers := c.callers.set caller
      (.exchange goal (.preparing { sent with retried := true } .primary [])) }
  ends : ∀ (d : Console β) (last : Response), last.status.code = 401 →
    d.callers[caller]? =
      some (.exchange goal (.failed { sent with retried := true } .primary last)) →
    ∀ (t : List (Moment × Event)) m₀ m₁, (∀ x ∈ t, x.2.sparesCaller caller = true) →
      d.advance m₀ caller = { d with
        callers := d.callers.set caller (.exchange goal
          (.clearing { sent with retried := true } (ApiError.ofResponse last).said)) } ∧
      (((d.advance m₀ caller).run t).advance m₁ caller).store.session = {}

theorem renews_of_rejected (hcarries : sent.bearer = some access) (hfirst : sent.IsRecoverable)
    (hstatus : response.status.code = 401)
    (hsession : c.store.session = ⟨some access, some refresh⟩)
    (hcaller : c.callers[caller]? = some (.exchange goal (.failed sent .primary response))) :
    c.Renews caller goal sent response ⟨some access, some refresh⟩ := by
  have haccess : c.store.session.access = sent.bearer := by rw [hsession, hcarries]
  have hlooks : ∀ now, c.advance now caller = { c with
      callers := c.callers.set caller (.exchange goal (.joining sent .primary response)) } := by
    intro now
    rw [advance_of_rejected hcaller hstatus hfirst.unsent haccess (by rw [hsession]; rfl) now,
      if_neg hfirst.route_ne]
  have hjoining : ∀ now (t : List (Moment × Event)), (∀ x ∈ t, x.2.sparesCaller caller = true) →
      ((c.advance now caller).run t).callers[caller]? =
        some (.exchange goal (.joining sent .primary response)) := by
    intro now t hspares
    refine getElem?_callers_run ?_ hspares
    rw [hlooks now]
    exact List.getElem?_set_self (List.getElem?_eq_some_iff.mp hcaller).1
  refine ⟨hlooks, fun now t hspares => ?_, fun now t hspares => ?_⟩
  · intro d id m hslot
    rw [advance_of_getElem? (hjoining now t hspares),
      stepActivity_exchange m caller goal d (by simp), stepExchange, joinOrStart_of_pending hslot]
  · intro d token m hslot hkept hrefresh
    refine startsCycle_advance (hjoining now t hspares) hslot ?_ ?_ m
    · rw [hkept, hcarries]
    · rw [hkept, hrefresh]

theorem resends_of_rejected (hcarries : sent.Carries access) (hvalid : isValid access = true)
    (hunreadable : sent.bearer = none) (hfirst : sent.IsRecoverable)
    (hstatus : response.status.code = 401)
    (hsession : c.store.session = ⟨some access, some refresh⟩)
    (hcaller : c.callers[caller]? = some (.exchange goal (.failed sent .primary response))) :
    c.Resends caller goal sent := by
  have hreplaced : replacement? c.store.session.access sent.bearer = some access := by
    rw [hsession, hunreadable]
    rfl
  -- the replay carries what was there before
  have hsame : sent.withAuthorization (bearerScheme ++ access) = sent := by
    have hheader : sent.headers.authorization = some (bearerScheme ++ access) := hcarries
    rw [Request.withAuthorization, ← hheader]
  have hreplay : sent.replayWith? access = some { sent with retried := true } := by
    rw [Request.replayWith?_eq, if_pos hvalid, hsame]
  have hdecide := FailureContext.decide_of_isRecoverable hfirst hstatus c.store.session.access
    c.store.session.refresh
  simp only [hreplaced] at hdecide
  refine ⟨fun now => ?_, fun d last hlast hfailed t m₀ m₁ hspares => ⟨?_, ?_⟩⟩
  · rw [advance_of_getElem? hcaller, stepActivity_exchange now caller goal c (by simp),
      stepExchange]
    simp only [hdecide, Exchange.decided, Exchange.replay, hreplay]
  · rw [advance_of_getElem? hfailed, stepActivity_failed_of_retried rfl hlast]
  · have hothers : ∀ u ∈ [t, [], [], []], ∀ x ∈ u, x.2.sparesCaller caller = true := by
      simpa using hspares
    exact (run_of_rejected hfailed rfl hlast hothers m₀ m₁ m₁ m₁ m₁).1

/-! ### The token that was sent -/

/-- **Recognition.** A session holds both tokens, and a request of its own scope is authenticated.
The request then carries the access token, which can be read back from it exactly if it is made of
visible characters. Suppose that the request is rejected, that it was not sent before and does not
itself renew the session, and that the session is the same when the caller looks at it. If the token
is visible, a renewal with the refresh token of the session is looked for before anything else is
done. If it is not, the request is sent again as it was, and after another rejection the session is
cleared without a renewal. -/
theorem sent_token_recognised_iff (hsession : c.store.session = ⟨some access, some refresh⟩)
    (hscope : c.routes.classify request.path = .primary)
    (hbypass : request.options.bypassAuth = false) (hvalid : isValid access = true) :
    let sent := request.withAuthorization (bearerScheme ++ access)
    authenticate c.routes c.store request = (.ok .primary, sent) ∧
      (∀ now, (c.step now (.start (.send request))).stretch now c.callers.length =
        { c.transmit (.caller c.callers.length) sent with
          callers := c.callers ++ [.exchange .response (.inFlight sent .primary)] }) ∧
      (sent.bearer = some access ↔ isReadable access = true) ∧
      (request.IsRecoverable → ∀ (d : Console β) (caller : Nat) (goal : Goal) (response : Response),
        d.store.session = ⟨some access, some refresh⟩ → response.status.code = 401 →
        d.callers[caller]? = some (.exchange goal (.failed sent .primary response)) →
        if isReadable access then
          d.Renews caller goal sent response ⟨some access, some refresh⟩
        else d.Resends caller goal sent) := by
  intro sent
  have hauth : authenticate c.routes c.store request = (.ok .primary, sent) :=
    authenticate_of_primary hscope hbypass (congrArg TokenPair.access hsession) hvalid
  have hbearer : sent.bearer = if isReadable access then some access else none :=
    request.bearer_withAuthorization access
  refine ⟨hauth, fun now => ?_, ?_, fun hfirst d caller goal response hkept hstatus hcaller => ?_⟩
  · rw [stretch_start, hauth]
  · rw [hbearer]
    split <;> simp_all
  · have hsent : sent.IsRecoverable := ⟨hfirst.unsent, hfirst.route_ne⟩
    split <;> rename_i hreadable
    · rw [if_pos hreadable] at hbearer
      exact renews_of_rejected hbearer hsent hstatus hkept hcaller
    · rw [if_neg hreadable] at hbearer
      exact resends_of_rejected rfl hvalid hbearer hsent hstatus hkept hcaller

/-- A console with a session in memory whose access token is not ASCII. -/
def accented : Console MemoryBackend :=
  opened .standard (.inMemory ⟨some "clé", some "R1"⟩)

theorem sent_token_recognised_signedIn :
    let sent := Request.listing.withAuthorization "Bearer A1"
    let c := signedIn.stretchRun <| List.map (default, ·)
      [.start (.send .listing), .advance 0, .answer 0 (.ok .expired)]
    sent.bearer = some "A1" ∧
      c.Renews 0 .response sent .expired ⟨some "A1", some "R1"⟩ := by
  intro sent c
  have hscope : signedIn.routes.classify Request.listing.path = .primary := by
    rw [signedIn, opened, RouteTable.standard_eq]
    decide
  have htokens : signedIn.store.session = ⟨some "A1", some "R1"⟩ := rfl
  have hbypass : Request.listing.options.bypassAuth = false := rfl
  obtain ⟨-, -, hbearer, hrejected⟩ :=
    sent_token_recognised_iff htokens hscope hbypass (by decide)
  have hcaller : c.callers[0]? = some (.exchange .response (.failed sent .primary .expired)) := by
    simp only [c, signedIn, RouteTable.standard_eq]
    rfl
  have hsession : c.store.session = ⟨some "A1", some "R1"⟩ := by
    simp only [c, signedIn, RouteTable.standard_eq]
    rfl
  exact ⟨hbearer.mpr (by decide),
    hrejected ⟨rfl, by decide⟩ c 0 .response .expired hsession rfl hcaller⟩

/-- A token that may stand in a header but cannot be read back costs the session: the request is
sent twice with it, nothing is renewed, and the user is sent to the login page. -/
theorem unreadable_token_lost :
    let c := accented.stretchRun <| List.map (default, ·)
      [ .start (.send .listing), .advance 0, .answer 0 (.ok .expired), .advance 0,
        .answer 0 (.ok .expired), .advance 0 ]
    isValid "clé" = true ∧ accented.store.session = ⟨some "clé", some "R1"⟩ ∧
      (c.sentBy 0).map (fun r => r.headers.authorization) =
        [some "Bearer clé", some "Bearer clé"] ∧
      c.callers[0]? = some (.finished (.response (.error (.sessionExpired "expired")))) ∧
      c.store.session = {} ∧ c.cyclesStarted = 0 ∧ c.renewalsSent = 0 ∧
      c.redirector.navigations = 1 := by
  simp only [accented, RouteTable.standard_eq]
  exact ⟨rfl, rfl, rfl, rfl, rfl, rfl, rfl, rfl⟩

end Console

end AdminConsole
