import AdminConsole.Proofs.Console.Turn
import AdminConsole.Proofs.Http.Bearer
import AdminConsole.Proofs.Route.Standard

/-!
# The stages of a shared renewal

The access token of a session has expired: the server rejects every request that carries it, and
accepts those that carry the one a renewal would bring. Any number of callers send requests of the
session's own scope. This file follows one caller and the one cycle that renews the session for all
of them.

`Phase` is how far the cycle has come, and `Stage` is how far a caller has come, together with what
it has sent. A caller depends on the phase through two facts only, that the cycle exists and that
the store holds the new token, and neither is ever taken back (`Stage.mono`). So the steps of one
caller (`Stage.move`), the answers to it (`Stage.answer`) and the steps of the cycle
(`Phase.advanceCycle`) can be looked at apart from each other.
-/

namespace AdminConsole

open AdminConsole.Text AdminConsole.Time

/-! ### Tokens -/

/-- The tokens of a renewal: an access token and a refresh token that the session holds before, and
what the server gives for the refresh token. -/
structure Rotation where
  old : String
  used : String
  fresh : String
  rotated : Option String := none
  old_visible : HeaderValue.isReadable old = true
  fresh_valid : HeaderValue.isValid fresh = true
  fresh_notBlank : isBlank fresh = false
  fresh_ne_old : fresh ≠ old

namespace Rotation

/-- The session before the renewal. -/
def before (g : Rotation) : TokenPair := ⟨some g.old, some g.used⟩

/-- The session after the renewal. A new refresh token that is blank is none. -/
def after (g : Rotation) : TokenPair := ⟨some g.fresh, (g.rotated.bind nonBlank?).or (some g.used)⟩

theorem before_ne_after (g : Rotation) : g.before ≠ g.after := fun h =>
  g.fresh_ne_old (Option.some_inj.mp (congrArg TokenPair.access h)).symm

/-- What the renewal brings. -/
def tokens (g : Rotation) : RenewedTokens := ⟨g.fresh, g.rotated⟩

/-- The answer to a renewal brings the tokens. -/
theorem tokens_of_granted {g : Rotation} {response : Response}
    (hsuccess : response.status.isSuccess = true)
    (hbody : RenewedTokens.ofBody? response.body = some g.tokens) :
    Renewal.tokens (.ok response) = .ok g.tokens := by
  have hblank : isBlank g.tokens.access = false := g.fresh_notBlank
  simp only [Renewal.tokens, hsuccess, hbody, hblank, not_true_eq_false, if_false,
    Bool.false_eq_true]

/-- What the cycle makes of the session. -/
def turn (g : Rotation) : Turn where
  used := g.used
  before := g.before
  after := g.after
  brings tokens := tokens = .ok g.tokens
  tells outcome := outcome = .ok g.fresh
  holds := rfl
  changes := g.before_ne_after
  writes := by
    rintro _ rfl
    simp only [Store.settled, Store.renewed, tokens, before, after, nonBlank?, g.fresh_notBlank,
      Bool.false_eq_true, if_false]
  reports := by
    rintro _ rfl
    rfl

/-- What a caller that was served has sent: one request with the new token, or one with the old
token and then the same request once more with the new one. -/
inductive Served (g : Rotation) : List Request → Request → Prop
  | once {request : Request} (hfresh : request.Carries g.fresh) : Served g [request] request
  | twice {request replay : Request} (hold : request.Carries g.old)
      (hreplay : request.replayWith? g.fresh = some replay) : Served g [request, replay] replay

/-- An access token that is no longer accepted. -/
def expired : Rotation where
  old := "A1"
  used := "R1"
  fresh := "A2"
  old_visible := by decide
  fresh_valid := by decide
  fresh_notBlank := by decide
  fresh_ne_old := by decide

end Rotation

/-! ### Servers and requests -/

/-- A server that takes one access token only. -/
structure Gatekeeper (token : String) where
  answers : Request → Response → Prop
  accepts : ∀ request response, request.Carries token → answers request response →
    response.status.isSuccess = true
  rejects : ∀ request response, ¬ request.Carries token → answers request response →
    response.status = .unauthorized

/-- The server that answers every request in one of two ways. -/
def Gatekeeper.strict (token : String) : Gatekeeper token where
  answers request response := response =
    if request.Carries token then ⟨default, "done"⟩ else .expired
  accepts request response h heq := by
    rw [heq, if_pos h]
    rfl
  rejects request response h heq := by
    rw [heq, if_neg h]
    rfl

/-- A request of the session's own scope that a caller may send. -/
structure Request.IsPrimary (routes : RouteTable) (request : Request) : Prop where
  scope : routes.classify request.path = .primary
  attached : request.options.bypassAuth = false
  unsent : request.retried = false

/-- The access token is attached to a request of the session's own scope. -/
theorem Request.IsPrimary.start_eq {routes : RouteTable} {request : Request}
    (h : request.IsPrimary routes) :
    Activity.start routes (.send request) =
      .exchange .response (.preparing request .primary [.bearer [.access]]) := by
  simp only [Activity.start, Exchange.start, h.scope, Attachment.plan, h.attached,
    Bool.false_eq_true, if_false, Attachment.ofScope]

/-- The standard table has no request of the session's own scope that renews the session. -/
theorem Request.IsPrimary.route_ne_renewal {request : Request}
    (h : request.IsPrimary .standard) : request.route ≠ Endpoint.renewal := by
  intro hroute
  have hcut : Path.cut request.path = Path.cut Endpoint.renewal := hroute.trans (by decide)
  have hscope := h.scope
  rw [RouteTable.classify_congr _ hcut, RouteTable.standard_classify_renewal] at hscope
  cases hscope

namespace Console

variable {β : Type} {g : Rotation} {n : CycleId} {c c' : Console β}

/-! ### How far the cycle has come -/

/-- How far the one cycle has come, which is to be the one at position `n`. -/
inductive Phase (g : Rotation) (n : CycleId) (c : Console β) : Prop
  | idle (hlength : c.cycles.length = n) (hsession : c.store.session = g.before)
      (hslot : c.pending = none)
  | renewing {stage : CycleStage} (hlength : c.cycles.length = n + 1)
      (hsession : c.store.session = g.before) (hslot : c.pending = some n)
      (hcycle : c.cycles[n]? = some ⟨g.used, stage⟩)
      (hstage : stage = .ready ∨ stage = .inFlight ∨ stage = .answered (.ok g.tokens))
  | renewed {stage : CycleStage} (hlength : c.cycles.length = n + 1)
      (hsession : c.store.session = g.after) (hslot : c.pending = none ∨ c.pending = some n)
      (hcycle : c.cycles[n]? = some ⟨g.used, stage⟩)
      (hstage : stage = .written (.ok g.fresh) ∨ stage = .released (.ok g.fresh) ∨
        stage = .settled (.ok g.fresh))

theorem phase_iff : Phase g n c ↔ g.turn.Phase n c := by
  constructor
  · intro h
    cases h with
    | idle hlength hsession hslot => exact .idle hlength hsession hslot
    | renewing hlength hsession hslot hcycle hstage =>
      exact .renewing hlength hsession hslot hcycle
        (hstage.imp_right (Or.imp_right fun heq => ⟨_, rfl, heq⟩))
    | renewed hlength hsession hslot hcycle hstage =>
      exact .written hlength hsession hslot hcycle rfl hstage
  · intro h
    cases h with
    | idle hlength hsession hslot => exact .idle hlength hsession hslot
    | renewing hlength hsession hslot hcycle hstage =>
      refine .renewing hlength hsession hslot hcycle (hstage.imp_right (Or.imp_right ?_))
      rintro ⟨_, rfl, heq⟩
      exact heq
    | written hlength hsession hslot hcycle htells hstage =>
      obtain rfl := htells
      exact .renewed hlength hsession hslot hcycle hstage

theorem Phase.congr (h : Phase g n c) (hcycles : c'.cycles = c.cycles)
    (hsession : c'.store.session = c.store.session) (hslot : c'.pending = c.pending) :
    Phase g n c' :=
  phase_iff.mpr ((phase_iff.mp h).congr hcycles hsession hslot)

theorem Phase.session (h : Phase g n c) :
    c.store.session = g.before ∨ c.store.session = g.after :=
  (phase_iff.mp h).session

/-- The renewal is answered. -/
theorem Phase.goOn (h : Phase g n c) (id : CycleId) :
    Phase g n (c.goOn id (.answered (.ok g.tokens))) :=
  phase_iff.mpr ((phase_iff.mp h).goOn id rfl)

/-- Once the session is renewed, one renewal was sent for each cycle, the one at `n` included. -/
theorem Phase.renewalsSent_of_after (h : Phase g n c) (hflight : c.SingleFlight)
    (hafter : c.store.session = g.after) : c.renewalsSent = n + 1 :=
  (phase_iff.mp h).renewalsSent_of_after hflight hafter

/-- Before the renewal nothing has taken the place of the old token. -/
theorem replacement?_before (hsession : c.store.session = g.before) :
    replacement? c.store.session.access (some g.old) = none := by
  rw [hsession, replacement?_eq_none_iff]
  exact Or.inr rfl

/-- After the renewal the new token has taken the place of the old one. -/
theorem replacement?_after (hsession : c.store.session = g.after) :
    replacement? c.store.session.access (some g.old) = some g.fresh := by
  rw [hsession, replacement?_eq_some_iff]
  exact ⟨rfl, fun heq => g.fresh_ne_old (Option.some_inj.mp heq).symm⟩

/-! ### How far a caller has come -/

/-- How far a caller has come, and what it has sent. -/
inductive Stage (g : Rotation) (server : Gatekeeper g.fresh) (n : CycleId) (c : Console β) :
    Activity → List Request → Prop
  | attaching {request : Request} (hrequest : request.IsRecoverable) :
      Stage g server n c
        (.exchange .response (.preparing request .primary [.bearer [.access]])) []
  | sending {request : Request} (hrequest : request.IsRecoverable)
      (hcarries : request.Carries g.old ∨
        request.Carries g.fresh ∧ c.store.session = g.after) :
      Stage g server n c (.exchange .response (.preparing request .primary [])) []
  | awaiting {request : Request} (hrequest : request.IsRecoverable)
      (hcarries : request.Carries g.old ∨
        request.Carries g.fresh ∧ c.store.session = g.after) :
      Stage g server n c (.exchange .response (.inFlight request .primary)) [request]
  | rejected {request : Request} {response : Response} (hrequest : request.IsRecoverable)
      (hold : request.Carries g.old) (hstatus : response.status = .unauthorized) :
      Stage g server n c (.exchange .response (.failed request .primary response)) [request]
  | joining {request : Request} {response : Response} (hold : request.Carries g.old) :
      Stage g server n c (.exchange .response (.joining request .primary response)) [request]
  | waiting {request : Request} {response : Response} (hold : request.Carries g.old)
      (hstarted : n < c.cycles.length) :
      Stage g server n c (.exchange .response (.waiting request .primary response n)) [request]
  | replaying {request replay : Request} (hold : request.Carries g.old)
      (hreplay : request.replayWith? g.fresh = some replay)
      (hrenewed : c.store.session = g.after) :
      Stage g server n c (.exchange .response (.preparing replay .primary [])) [request]
  | replayed {request replay : Request} (hold : request.Carries g.old)
      (hreplay : request.replayWith? g.fresh = some replay)
      (hrenewed : c.store.session = g.after) :
      Stage g server n c (.exchange .response (.inFlight replay .primary)) [request, replay]
  | answered {sent : List Request} {last : Request} {response : Response}
      (hserved : g.Served sent last) (hanswer : server.answers last response)
      (hrenewed : c.store.session = g.after) :
      Stage g server n c (.exchange .response (.finished (.ok response))) sent
  | done {sent : List Request} {last : Request} {response : Response}
      (hserved : g.Served sent last) (hanswer : server.answers last response)
      (hrenewed : c.store.session = g.after) :
      Stage g server n c (.finished (.response (.ok response))) sent

variable {server : Gatekeeper g.fresh} {a : Activity} {sent : List Request}

/-- A caller does not fall back while the others and the cycle go on. -/
theorem Stage.mono (h : Stage g server n c a sent)
    (hstarted : n < c.cycles.length → n < c'.cycles.length)
    (hrenewed : c.store.session = g.after → c'.store.session = g.after) :
    Stage g server n c' a sent := by
  cases h with
  | attaching hrequest => exact .attaching hrequest
  | sending hrequest hcarries =>
    exact .sending hrequest (hcarries.imp_right (And.imp_right hrenewed))
  | awaiting hrequest hcarries =>
    exact .awaiting hrequest (hcarries.imp_right (And.imp_right hrenewed))
  | rejected hrequest hold hstatus => exact .rejected hrequest hold hstatus
  | joining hold => exact .joining hold
  | waiting hold hlt => exact .waiting hold (hstarted hlt)
  | replaying hold hreplay hdone => exact .replaying hold hreplay (hrenewed hdone)
  | replayed hold hreplay hdone => exact .replayed hold hreplay (hrenewed hdone)
  | answered hserved hanswer hdone => exact .answered hserved hanswer (hrenewed hdone)
  | done hserved hanswer hdone => exact .done hserved hanswer (hrenewed hdone)

theorem Stage.congr (h : Stage g server n c a sent) (hcycles : c'.cycles = c.cycles)
    (hstore : c'.store = c.store) : Stage g server n c' a sent :=
  h.mono (hcycles ▸ fun hlt => hlt) (hstore ▸ fun hrenewed => hrenewed)

/-- Once the session is renewed, a caller with a rejected request sends it again. -/
theorem Stage.replay {request : Request} (hold : request.Carries g.old)
    (hrenewed : c.store.session = g.after) :
    Stage g server n c (.exchange .response (Exchange.replay request .primary g.fresh))
      [request] := by
  obtain ⟨replay, hreplay, -⟩ := request.exists_replayWith? g.fresh_valid
  rw [Exchange.replay, hreplay]
  exact .replaying hold hreplay hrenewed

/-- What an answer makes of a caller: with the old token the request is rejected, with the new one
it is served. -/
theorem Stage.answer {goal : Goal} {x : Exchange} {response : Response}
    (h : Stage g server n c (.exchange goal x) sent)
    (hanswer : ∀ request scope, x = .inFlight request scope → server.answers request response) :
    Stage g server n c (.exchange goal (x.answer (.ok response))) sent := by
  cases h with
  | attaching hrequest => exact .attaching hrequest
  | sending hrequest hcarries => exact .sending hrequest hcarries
  | @awaiting request hrequest hcarries =>
    have hanswer := hanswer request .primary rfl
    rcases hcarries with hold | ⟨hfresh, hrenewed⟩
    · have hstatus := server.rejects request response
        (fun hfresh => g.fresh_ne_old (hfresh.unique hold)) hanswer
      have hfailed : response.status.isSuccess = false := by rw [hstatus]; rfl
      simp only [Exchange.answer, hfailed, Bool.false_eq_true, if_false]
      exact .rejected hrequest hold hstatus
    · simp only [Exchange.answer, server.accepts request response hfresh hanswer, if_true]
      exact .answered (.once hfresh) hanswer hrenewed
  | rejected hrequest hold hstatus => exact .rejected hrequest hold hstatus
  | joining hold => exact .joining hold
  | waiting hold hstarted => exact .waiting hold hstarted
  | replaying hold hreplay hrenewed => exact .replaying hold hreplay hrenewed
  | @replayed request replay hold hreplay hrenewed =>
    have hanswer := hanswer replay .primary rfl
    have hfresh : replay.Carries g.fresh := Request.carries_of_replayWith? hreplay
    simp only [Exchange.answer, server.accepts replay response hfresh hanswer, if_true]
    exact .answered (.twice hold hreplay) hanswer hrenewed
  | answered hserved hanswered hrenewed => exact .answered hserved hanswered hrenewed

/-- What a step of a caller comes to: it is a matter of the caller alone, or the caller sends a
request, or it starts the cycle. -/
inductive Move (g : Rotation) (server : Gatekeeper g.fresh) (n : CycleId) (caller : Nat)
    (c : Console β) (sent : List Request) : Activity × Console β → Prop
  | alone {a : Activity} (h : Stage g server n c a sent) : Move g server n caller c sent (a, c)
  | sends {a : Activity} {request : Request} (h : Stage g server n c a (sent ++ [request])) :
      Move g server n caller c sent (a, c.transmit (.caller caller) request)
  | starts {a : Activity} {c' : Console β} (hidle : c.cycles.length = n)
      (hstart : c' = { c with
        pending := some n
        cycles := c.cycles ++ [{ refreshToken := g.used }] })
      (hsession : c.store.session = g.before) (h : Stage g server n c' a sent) :
      Move g server n caller c sent (a, c')

variable [Backend β]

/-! ### Steps of a caller -/

/-- The access token that the session holds is attached. -/
theorem stepExchange_attach {token : String} (hsession : c.store.session.access = some token)
    (hvalid : HeaderValue.isValid token = true) (now : Moment) (caller : Nat) (request : Request)
    (scope : Scope) :
    c.stepExchange now caller (.preparing request scope [.bearer [.access]]) =
      (.preparing (request.withAuthorization (HeaderValue.bearerScheme ++ token)) scope [], c) := by
  have hget : c.store.get .access = some token := hsession
  simp only [stepExchange, Attachment.attach, hget, Attachment.withBearer_of_isValid request hvalid,
    Attachment.Progress.ofResult, Option.toList_none, List.nil_append]

theorem Stage.move_attaching {request : Request} (hrequest : request.IsRecoverable)
    (hphase : Phase g n c) (now : Moment) (caller : Nat) :
    Move g server n caller c []
      (c.stepActivity now caller
        (.exchange .response (.preparing request .primary [.bearer [.access]]))) := by
  rw [stepActivity_exchange now caller .response c (by simp)]
  rcases hphase.session with hsession | hsession
  · have hvalid := HeaderValue.isValid_of_isReadable g.old_visible
    have haccess : c.store.session.access = some g.old := congrArg TokenPair.access hsession
    rw [stepExchange_attach haccess hvalid now caller request .primary]
    exact .alone (.sending ⟨hrequest.unsent, hrequest.route_ne⟩
      (Or.inl (request.carries_withAuthorization g.old)))
  · have haccess : c.store.session.access = some g.fresh := congrArg TokenPair.access hsession
    rw [stepExchange_attach haccess g.fresh_valid now caller request .primary]
    exact .alone (.sending ⟨hrequest.unsent, hrequest.route_ne⟩
      (Or.inr ⟨request.carries_withAuthorization g.fresh, hsession⟩))

theorem Stage.move_rejected {request : Request} {response : Response}
    (hrequest : request.IsRecoverable) (hold : request.Carries g.old)
    (hstatus : response.status = .unauthorized) (hphase : Phase g n c) (now : Moment)
    (caller : Nat) :
    Move g server n caller c [request]
      (c.stepActivity now caller (.exchange .response (.failed request .primary response))) := by
  have hdecide := FailureContext.decide_of_isRecoverable hrequest (congrArg Status.code hstatus)
    c.store.session.access c.store.session.refresh
  rw [hold.bearer g.old_visible] at hdecide
  rw [stepActivity_exchange now caller .response c (by simp), stepExchange]
  rcases hphase.session with hsession | hsession
  · have hrefresh : c.store.session.refresh.isSome = true := by
      rw [hsession]
      rfl
    simp only [hdecide, replacement?_before hsession, hrefresh, if_true]
    exact .alone (.joining hold)
  · simp only [hdecide, replacement?_after hsession]
    exact .alone (.replay hold hsession)

theorem Stage.move_joining {request : Request} {response : Response}
    (hold : request.Carries g.old) (hphase : Phase g n c) (now : Moment) (caller : Nat) :
    Move g server n caller c [request]
      (c.stepActivity now caller (.exchange .response (.joining request .primary response))) := by
  have hbearer := hold.bearer g.old_visible
  rw [stepActivity_exchange now caller .response c (by simp), stepExchange, hbearer]
  cases hphase with
  | idle hlength hsession hslot =>
    have hrefresh : c.store.session.refresh = some g.used := congrArg TokenPair.refresh hsession
    rw [joinOrStart_start hslot (replacement?_before hsession) hrefresh, hlength]
    refine .starts hlength rfl hsession (.waiting hold ?_)
    simp [hlength]
  | renewing hlength hsession hslot hcycle hstage =>
    rw [joinOrStart_of_pending hslot]
    exact .alone (.waiting hold (hlength ▸ Nat.lt_succ_self n))
  | renewed hlength hsession hslot hcycle hstage =>
    -- the session is renewed already, but the slot may not have been emptied yet
    rcases hslot with hslot | hslot
    · rw [joinOrStart_of_replaced hslot (replacement?_after hsession)]
      exact .alone (.replay hold hsession)
    · rw [joinOrStart_of_pending hslot]
      exact .alone (.waiting hold (hlength ▸ Nat.lt_succ_self n))

theorem Stage.move_waiting {request : Request} {response : Response}
    (hold : request.Carries g.old) (hstarted : n < c.cycles.length) (hphase : Phase g n c)
    (now : Moment) (caller : Nat) :
    Move g server n caller c [request]
      (c.stepActivity now caller
        (.exchange .response (.waiting request .primary response n))) := by
  rw [stepActivity_exchange now caller .response c (by simp), stepExchange]
  cases hphase with
  | idle hlength hsession hslot => exact absurd hstarted (hlength ▸ Nat.lt_irrefl n)
  | renewing hlength hsession hslot hcycle hstage =>
    have houtcome : c.outcome? n = none := by
      rw [outcome?, hcycle]
      rcases hstage with rfl | rfl | rfl <;> rfl
    rw [houtcome]
    exact .alone (.waiting hold hstarted)
  | renewed hlength hsession hslot hcycle hstage =>
    -- what has been written is not told before the cycle is out of the slot
    have houtcome : c.outcome? n = none ∨ c.outcome? n = some (.ok g.fresh) := by
      rw [outcome?, hcycle]
      rcases hstage with rfl | rfl | rfl
      · exact Or.inl rfl
      · exact Or.inl rfl
      · exact Or.inr rfl
    rcases houtcome with houtcome | houtcome
    · rw [houtcome]
      exact .alone (.waiting hold hstarted)
    · rw [houtcome]
      exact .alone (.replay hold hsession)

/-- **Steps of a caller.** From where a caller may stand it gets to where a caller may stand. -/
theorem Stage.move (h : Stage g server n c a sent) (hphase : Phase g n c) (now : Moment)
    (caller : Nat) : Move g server n caller c sent (c.stepActivity now caller a) := by
  cases h with
  | attaching hrequest => exact Stage.move_attaching hrequest hphase now caller
  | sending hrequest hcarries => exact .sends (.awaiting hrequest hcarries)
  | awaiting hrequest hcarries => exact .alone (.awaiting hrequest hcarries)
  | rejected hrequest hold hstatus =>
    exact Stage.move_rejected hrequest hold hstatus hphase now caller
  | joining hold => exact Stage.move_joining hold hphase now caller
  | waiting hold hstarted => exact Stage.move_waiting hold hstarted hphase now caller
  | replaying hold hreplay hrenewed => exact .sends (.replayed hold hreplay hrenewed)
  | replayed hold hreplay hrenewed => exact .alone (.replayed hold hreplay hrenewed)
  | answered hserved hanswer hrenewed => exact .alone (.done hserved hanswer hrenewed)
  | done hserved hanswer hrenewed => exact .alone (.done hserved hanswer hrenewed)

/-- **Steps of the cycle.** The cycle goes on, and does not undo the renewal. -/
theorem Phase.advanceCycle (h : Phase g n c) (hflight : c.SingleFlight) (now : Moment)
    (id : CycleId) :
    Phase g n (c.advanceCycle now id) ∧
      (c.store.session = g.after → (c.advanceCycle now id).store.session = g.after) :=
  ((phase_iff.mp h).advanceCycle hflight now id).imp_left phase_iff.mpr

end Console

end AdminConsole
