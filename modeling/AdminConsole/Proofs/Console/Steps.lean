import AdminConsole.Console.Step

/-!
# What one step of a caller does

A step of a caller has two sides: where the caller comes to stand, and what is done to what the
callers share. The second can be read off where the caller stands, without a look at the console:
`Activity.effect` is one of seven effects, so a fact about what steps leave alone is proved effect
by effect. The first is told by `Exchange.StepsTo`, with one constructor for each way in which a
request goes on. Read backwards it says where a request has come from that stands somewhere.
-/

namespace AdminConsole

open AdminConsole.Time

/-! ### Effects -/

/-- What a step of a caller does to what is shared. -/
inductive Effect where
  | nothing
  /-- A request is handed to the transport. -/
  | sends (request : Request)
  /-- A cycle is looked for on behalf of somebody who has sent this token. -/
  | joins (sent : Option String)
  | writes (w : StoreWrite)
  /-- The redirector is told that somebody has signed in. -/
  | arms
  /-- The redirector is told that a request has lost the session. -/
  | marks (request : Request) (generation : Nat)
  /-- The user is sent to the login page. -/
  | navigates

/-- What the next step of a request does to what is shared. -/
def Exchange.effect : Exchange → Effect
  | .preparing request _ [] => .sends request
  | .droppingPeer _ => .writes .clearPeer
  | .joining request _ _ => .joins request.bearer
  | .clearing _ _ => .writes (.clear .session)
  | .redirecting request _ generation => .marks request generation
  | .navigating _ => .navigates
  | .preparing _ _ (_ :: _) | .inFlight _ _ | .failed _ _ _ | .waiting _ _ _ _
  | .reconsidering _ _ _ | .cleared _ _ | .finished _ => .nothing

/-- What the next step of a caller does to what is shared. -/
def Activity.effect : Activity → Effect
  | .exchange _ x => x.effect
  | .installing pair => .writes (.setSession pair)
  | .rearming _ | .arming => .arms
  | .keeping token => .writes (.set .tunnelServer token)
  | .closing => .writes (.clear .session)
  | .parting => .writes .clearPeer
  | .joining sent => .joins sent
  | .writing w => .writes w
  | .redirecting request generation => .marks request generation
  | .navigating => .navigates
  | .leaving | .asking | .waiting _ | .finished _ | .cancelled => .nothing

namespace Console

variable {β : Type}

/-- The console after a caller has had an effect. -/
def under [Backend β] (now : Moment) (caller : Nat) (c : Console β) : Effect → Console β
  | .nothing => c
  | .sends request => c.transmit (.caller caller) request
  | .joins sent => (c.joinOrStart sent).2
  | .writes w => { c with store := (c.store.apply now w).2 }
  | .arms => { c with redirector := c.redirector.rearm }
  | .marks request generation =>
    { c with redirector := (c.redirector.mark request generation).2 }
  | .navigates => { c with redirector := c.redirector.navigate }

variable [Backend β]

/-- **Effects of a request.** A step does to what is shared what its effect does. -/
theorem stepExchange_snd (now : Moment) (caller : Nat) (x : Exchange) (c : Console β) :
    (c.stepExchange now caller x).2 = c.under now caller x.effect := by
  cases x with
  | preparing request scope todo =>
    cases todo with
    | nil => rfl
    | cons a rest =>
      simp only [stepExchange]
      split <;> rfl
  | joining request scope response =>
    simp only [stepExchange, Exchange.effect, under]
    cases c.joinOrStart request.bearer with
    | mk joined c' => cases joined <;> rfl
  | waiting request scope response id =>
    simp only [stepExchange]
    split <;> rfl
  | reconsidering request scope response =>
    simp only [stepExchange]
    split <;> rfl
  | _ => rfl

/-- A step of a caller that waits for a request to be over is a step of that request. -/
theorem stepActivity_exchange (now : Moment) (caller : Nat) (goal : Goal) {x : Exchange}
    (c : Console β) (hx : ∀ result, x ≠ .finished result) :
    c.stepActivity now caller (.exchange goal x) =
      (.exchange goal (c.stepExchange now caller x).1, (c.stepExchange now caller x).2) := by
  cases x with
  | finished result => exact absurd rfl (hx result)
  | _ => rfl

section Redirecting

variable {c : Console β} {goal : Goal} {request : Request} {said : String}
  {generation : Nat}

theorem stepActivity_redirecting_of_first
    (hfirst : (c.redirector.mark request generation).1 = true) (now : Moment) (caller : Nat) :
    c.stepActivity now caller (.exchange goal (.redirecting request said generation)) =
      (.exchange goal (.navigating said),
        { c with redirector := (c.redirector.mark request generation).2 }) := by
  simp only [stepActivity, stepExchange, hfirst, if_true]

theorem stepActivity_redirecting_of_not_first
    (hfirst : (c.redirector.mark request generation).1 = false) (now : Moment) (caller : Nat) :
    c.stepActivity now caller (.exchange goal (.redirecting request said generation)) =
      (.exchange goal (.finished (.error (.sessionExpired said))),
        { c with redirector := (c.redirector.mark request generation).2 }) := by
  simp only [stepActivity, stepExchange, hfirst, Bool.false_eq_true, if_false]

end Redirecting

/-- **Effects of a caller.** A step does to what is shared what its effect does. -/
theorem stepActivity_snd (now : Moment) (caller : Nat) (a : Activity) (c : Console β) :
    (c.stepActivity now caller a).2 = c.under now caller a.effect := by
  cases a with
  | exchange goal x =>
    cases x with
    | finished result => rfl
    | _ =>
      rw [stepActivity_exchange now caller goal c (by simp)]
      exact stepExchange_snd now caller _ c
  | leaving =>
    simp only [stepActivity]
    split <;> rfl
  | joining sent =>
    simp only [stepActivity, Activity.effect, under]
    cases c.joinOrStart sent with
    | mk joined c' => cases joined <;> rfl
  | waiting id =>
    simp only [stepActivity]
    split <;> rfl
  | _ => rfl

end Console

/-! ### How a request goes on -/

namespace Exchange

variable {β : Type}

/-- What is decided about a failed request, as the session is now. -/
def decision (c : Console β) (request : Request) (scope : Scope) (response : Response) :
    AuthDecision :=
  (FailureContext.of request scope response c.store.session.access
    c.store.session.refresh).decide

/-- A rejected request finds a token to be sent again with: in the store, or by looking for a cycle,
or because the cycle has told it. -/
inductive Finds (c : Console β) (request : Request) (scope : Scope) (token : String) :
    Exchange → Prop
  | stored {response : Response}
      (hdecision : decision c request scope response = .replayWithCurrent token) :
      Finds c request scope token (.failed request scope response)
  | joined {response : Response}
      (hjoined : (c.joinOrStart request.bearer).1 = .ready (.ok token)) :
      Finds c request scope token (.joining request scope response)
  | told {response : Response} {id : CycleId} (houtcome : c.outcome? id = some (.ok token)) :
      Finds c request scope token (.waiting request scope response id)

/-- Where a request comes to stand in one step. -/
inductive StepsTo [Backend β] (c : Console β) : Exchange → Exchange → Prop
  | sent (request : Request) (scope : Scope) :
      StepsTo c (.preparing request scope []) (.inFlight request scope)
  | attached (request : Request) (scope : Scope) (a : Attachment) (rest : List Attachment)
      (hfailure : (a.attach c.store request).failure = none) :
      StepsTo c (.preparing request scope (a :: rest))
        (.preparing (a.attach c.store request).request scope
          ((a.attach c.store request).remaining.toList ++ rest))
  | unsendable (request : Request) (scope : Scope) {a : Attachment} (rest : List Attachment)
      {e : ApiError} (hfailure : (a.attach c.store request).failure = some e) :
      StepsTo c (.preparing request scope (a :: rest)) (.finished (.error e))
  | awaits (request : Request) (scope : Scope) :
      StepsTo c (.inFlight request scope) (.inFlight request scope)
  | propagates {request : Request} {scope : Scope} {response : Response}
      (hdecision : decision c request scope response = .propagate) :
      StepsTo c (.failed request scope response) (.finished (.error (.ofResponse response)))
  | leavesPeer {request : Request} {scope : Scope} {response : Response}
      (hdecision : decision c request scope response = .invalidateContext) :
      StepsTo c (.failed request scope response)
        (.droppingPeer (scopeFailure scope (.ofResponse response)))
  | namesScope {request : Request} {scope : Scope} {response : Response}
      (hdecision : decision c request scope response = .scopeFailure) :
      StepsTo c (.failed request scope response)
        (.finished (.error (scopeFailure scope (.ofResponse response))))
  | givesUp {request : Request} {scope : Scope} {response : Response}
      (hdecision : decision c request scope response = .terminal) :
      StepsTo c (.failed request scope response)
        (.clearing request (ApiError.ofResponse response).said)
  | recovers {request : Request} {scope : Scope} {response : Response}
      (hdecision : decision c request scope response = .recover) :
      StepsTo c (.failed request scope response) (.joining request scope response)
  | replayed {x : Exchange} {request r : Request} {scope : Scope} {token : String}
      (hfinds : x.Finds c request scope token) (hreplay : request.replayWith? token = some r) :
      StepsTo c x (.preparing r scope [])
  | unreplayable {x : Exchange} {request : Request} {scope : Scope} {token : String}
      (hfinds : x.Finds c request scope token) (hreplay : request.replayWith? token = none) :
      StepsTo c x (.finished (.error (.invalidRequest .credentialNotHeaderValue)))
  | joins {request : Request} (scope : Scope) (response : Response) {id : CycleId}
      (hjoined : (c.joinOrStart request.bearer).1 = .pending id) :
      StepsTo c (.joining request scope response) (.waiting request scope response id)
  | refused {request : Request} (scope : Scope) (response : Response) {failure : RenewalFailure}
      (hjoined : (c.joinOrStart request.bearer).1 = .ready (.error failure)) :
      StepsTo c (.joining request scope response) (.reconsidering request scope response)
  | waits (request : Request) (scope : Scope) (response : Response) {id : CycleId}
      (houtcome : c.outcome? id = none) :
      StepsTo c (.waiting request scope response id) (.waiting request scope response id)
  | failed (request : Request) (scope : Scope) (response : Response) {id : CycleId}
      {failure : RenewalFailure} (houtcome : c.outcome? id = some (.error failure)) :
      StepsTo c (.waiting request scope response id) (.reconsidering request scope response)
  | replaced {request : Request} (scope : Scope) (response : Response) {token : String}
      (hreplaced : replacement? c.store.session.access request.bearer = some token) :
      StepsTo c (.reconsidering request scope response) (.failed request scope response)
  | lost {request : Request} (scope : Scope) (response : Response)
      (hreplaced : replacement? c.store.session.access request.bearer = none) :
      StepsTo c (.reconsidering request scope response)
        (.clearing request (ApiError.ofResponse response).said)
  | dropsPeer (e : ApiError) : StepsTo c (.droppingPeer e) (.finished (.error e))
  | clears (request : Request) (said : String) :
      StepsTo c (.clearing request said) (.cleared request said)
  | looks (request : Request) (said : String) :
      StepsTo c (.cleared request said) (.redirecting request said c.store.generation)
  | marks {request : Request} (said : String) {generation : Nat}
      (hfirst : (c.redirector.mark request generation).1 = true) :
      StepsTo c (.redirecting request said generation) (.navigating said)
  | passes {request : Request} (said : String) {generation : Nat}
      (hfirst : (c.redirector.mark request generation).1 = false) :
      StepsTo c (.redirecting request said generation) (.finished (.error (.sessionExpired said)))
  | navigates (said : String) :
      StepsTo c (.navigating said) (.finished (.error (.sessionExpired said)))
  | ended (result : Except ApiError Response) : StepsTo c (.finished result) (.finished result)

variable [Backend β] {c : Console β} {x y : Exchange}

/-- A request that has found a token is sent again with it, if that can be done. -/
theorem Finds.stepsTo_replay {request : Request} {scope : Scope} {token : String}
    (h : x.Finds c request scope token) : x.StepsTo c (replay request scope token) := by
  rw [replay]
  cases hreplay : request.replayWith? token with
  | some r => exact .replayed h hreplay
  | none => exact .unreplayable h hreplay

/-- **Steps of a request.** -/
theorem stepsTo_stepExchange (now : Moment) (caller : Nat) (x : Exchange) (c : Console β) :
    x.StepsTo c (c.stepExchange now caller x).1 := by
  cases x with
  | preparing request scope todo =>
    cases todo with
    | nil => exact .sent request scope
    | cons a rest =>
      simp only [Console.stepExchange]
      split
      · exact .unsendable request scope rest ‹_›
      · exact .attached request scope a rest ‹_›
  | inFlight request scope => exact .awaits request scope
  | failed request scope response =>
    cases hdecision : decision c request scope response <;>
      (rw [decision] at hdecision; simp only [Console.stepExchange, hdecision, decided])
    case propagate => exact .propagates hdecision
    case invalidateContext => exact .leavesPeer hdecision
    case scopeFailure => exact .namesScope hdecision
    case terminal => exact .givesUp hdecision
    case replayWithCurrent token => exact (Finds.stored hdecision).stepsTo_replay
    case recover => exact .recovers hdecision
  | droppingPeer e => exact .dropsPeer e
  | joining request scope response =>
    simp only [Console.stepExchange]
    rcases hjoined : c.joinOrStart request.bearer with ⟨joined, c'⟩
    cases joined with
    | pending id => exact .joins scope response (by rw [hjoined])
    | ready outcome =>
      cases outcome with
      | ok token => exact (Finds.joined (by rw [hjoined])).stepsTo_replay
      | error failure => exact .refused scope response (by rw [hjoined])
  | waiting request scope response id =>
    simp only [Console.stepExchange]
    cases houtcome : c.outcome? id with
    | none => exact .waits request scope response houtcome
    | some outcome =>
      cases outcome with
      | ok token => exact (Finds.told houtcome).stepsTo_replay
      | error failure => exact .failed request scope response houtcome
  | reconsidering request scope response =>
    have hget : c.store.get .access = c.store.session.access := rfl
    simp only [Console.stepExchange, hget]
    split
    · exact .replaced scope response ‹_›
    · exact .lost scope response ‹_›
  | clearing request said => exact .clears request said
  | cleared request said => exact .looks request said
  | redirecting request said generation =>
    simp only [Console.stepExchange]
    split
    · exact .marks said ‹_›
    · exact .passes said (Bool.eq_false_iff.mpr ‹_›)
  | navigating said => exact .navigates said
  | finished result => exact .ended result

theorem stepsTo_of_stepExchange {now : Moment} {caller : Nat}
    (h : (c.stepExchange now caller x).1 = y) : x.StepsTo c y :=
  h ▸ stepsTo_stepExchange now caller x c

end Exchange

end AdminConsole
