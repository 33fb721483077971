import AdminConsole.Authenticate
import AdminConsole.Identity
import AdminConsole.Recovery
import AdminConsole.Redirector
import AdminConsole.Renewal

/-!
# The state of a console

A console serves any number of callers at once. What they share is the credential store, the
redirector and one slot for the renewal cycle that is under way. Each caller and each cycle stands
at one point of what it is doing (`Activity`, `Exchange`, `CycleStage`), and every point lies just
before one operation on what is shared, or at one of the two places where it waits for something
that is not up to it: an answer of the server, or the end of a cycle.

Nothing is taken out of the list of callers or cycles, so a position in the list names one caller
or cycle for good, and the number of cycles started so far is the length of the list.
-/

namespace AdminConsole

/-! ### Renewal cycles -/

/-- A renewal cycle, by its position among all that were started. -/
abbrev CycleId := Nat

/-- What those who wait for a cycle get: the new access token, or why there is none. -/
abbrev RenewalOutcome := Except RenewalFailure String

/-- Where a renewal cycle stands. -/
inductive CycleStage where
  /-- About to send the renewal. -/
  | ready
  /-- Waiting for the answer. -/
  | inFlight
  /-- About to write the store. -/
  | answered (tokens : Except RenewalFailure RenewedTokens)
  /-- About to empty the slot. -/
  | written (outcome : RenewalOutcome)
  /-- About to tell those who wait. -/
  | released (outcome : RenewalOutcome)
  /-- Over. -/
  | settled (outcome : RenewalOutcome)
  /-- Cut short before it came to an end of its own. -/
  | dead

/-- A renewal cycle: the refresh token it was started with, and where it stands. -/
structure Cycle where
  refreshToken : String
  stage : CycleStage := .ready

/-- What those who wait for the cycle get, once there is something to get. -/
def Cycle.outcome? (c : Cycle) : Option RenewalOutcome :=
  match c.stage with
  | .settled o => some o
  | .dead => some (.error (.aborted ""))
  | .ready | .inFlight | .answered _ | .written _ | .released _ => none

/-! ### Requests under way -/

/-- Where a request of a caller stands. -/
inductive Exchange where
  /-- Credentials are being attached; once nothing is left to attach, the request is sent. -/
  | preparing (request : Request) (scope : Scope) (todo : List Attachment)
  /-- Waiting for the answer. -/
  | inFlight (request : Request) (scope : Scope)
  /-- The answer was no success; about to look at the session. -/
  | failed (request : Request) (scope : Scope) (response : Response)
  /-- About to drop the selected peer. -/
  | droppingPeer (error : ApiError)
  /-- About to look for a cycle to wait for. -/
  | joining (request : Request) (scope : Scope) (response : Response)
  /-- Waiting for a cycle. -/
  | waiting (request : Request) (scope : Scope) (response : Response) (cycle : CycleId)
  /-- The cycle failed; about to see whether the access token was replaced by other means. -/
  | reconsidering (request : Request) (scope : Scope) (response : Response)
  /-- About to clear the session. -/
  | clearing (request : Request) (said : String)
  /-- About to look which session it was. -/
  | cleared (request : Request) (said : String)
  /-- About to note that the user is sent to the login page. -/
  | redirecting (request : Request) (said : String) (generation : Nat)
  /-- About to send the user to the login page. -/
  | navigating (said : String)
  /-- Over. -/
  | finished (result : Except ApiError Response)

namespace Exchange

/-- A request that is about to go through the console. -/
def start (routes : RouteTable) (request : Request) : Exchange :=
  let scope := routes.classify request.path
  .preparing request scope (Attachment.plan request scope)

/-- A request that is about to be sent again with another token. -/
def replay (request : Request) (scope : Scope) (token : String) : Exchange :=
  match request.replayWith? token with
  | some r => .preparing r scope []
  | none => .finished (.error (.invalidRequest .credentialNotHeaderValue))

/-- A failed request once its cycle has come to an end. -/
def resume (request : Request) (scope : Scope) (response : Response) : RenewalOutcome → Exchange
  | .ok token => replay request scope token
  | .error _ => .reconsidering request scope response

/-- A failed request once it is decided what becomes of it. -/
def decided (request : Request) (scope : Scope) (response : Response) : AuthDecision → Exchange
  | .propagate => .finished (.error (.ofResponse response))
  | .invalidateContext => .droppingPeer (scopeFailure scope (.ofResponse response))
  | .scopeFailure => .finished (.error (scopeFailure scope (.ofResponse response)))
  | .terminal => .clearing request (ApiError.ofResponse response).said
  | .replayWithCurrent token => replay request scope token
  | .recover => .joining request scope response

/-- A request that was waiting for its answer, once the answer is there. -/
def answer (result : Except ApiError Response) : Exchange → Exchange
  | .inFlight request scope =>
    match result with
    | .error e => .finished (.error e)
    | .ok response =>
      if response.status.isSuccess then .finished (.ok response)
      else .failed request scope response
  | x => x

end Exchange

/-! ### Callers -/

/-- What a caller asks for. -/
inductive Operation where
  | send (request : Request)
  /-- Recovers from a response to a request that was sent by other means. -/
  | recover (request : Request) (scope : Scope) (response : Response)
  | login (email password : String)
  | logout
  | tunnelLogin (username password : String)
  /-- Renews the session now. -/
  | refresh
  /-- Writes to the store. -/
  | write (w : StoreWrite)
  /-- Declares that the user has signed in. -/
  | rearm
  /-- Sends the user to the login page on account of a request. -/
  | redirect (request : Request) (generation : Nat)

/-- What a caller gets in the end. -/
inductive Outcome where
  | response (result : Except ApiError Response)
  | signedIn (result : Except ApiError TokenPair)
  | tunnelSignedIn (result : Except ApiError Unit)
  | renewed (outcome : RenewalOutcome)
  | reply (r : StoreReply)
  | redirected (b : Bool)
  | done

/-- What the answer to a request is wanted for. -/
inductive Goal where
  | response
  | signIn
  | tunnelSignIn
  | signOut
  deriving Repr, DecidableEq

/-- Where a caller stands. -/
inductive Activity where
  | exchange (goal : Goal) (x : Exchange)
  /-- Signing in: about to install the session. -/
  | installing (pair : TokenPair)
  /-- Signing in: about to arm the redirector. -/
  | rearming (pair : TokenPair)
  /-- Signing in to the tunnel server: about to keep its token. -/
  | keeping (token : String)
  /-- Signing out: about to see whether anyone is signed in. -/
  | leaving
  /-- Signing out: about to clear the session. -/
  | closing
  /-- Signing out: about to drop the selected peer. -/
  | parting
  /-- Renewing: about to look at the access token. -/
  | asking
  /-- Renewing: about to look for a cycle to wait for. -/
  | joining (sent : Option String)
  /-- Renewing: waiting for a cycle. -/
  | waiting (cycle : CycleId)
  | writing (w : StoreWrite)
  | arming
  | redirecting (request : Request) (generation : Nat)
  | navigating
  | finished (outcome : Outcome)
  | cancelled

/-- Where a caller stands who has just asked for something. -/
def Activity.start (routes : RouteTable) : Operation → Activity
  | .send request => .exchange .response (.start routes request)
  | .recover request scope response => .exchange .response (.failed request scope response)
  | .login email password =>
    .exchange .signIn (.start routes (Identity.signInRequest email password))
  | .logout => .leaving
  | .tunnelLogin username password =>
    .exchange .tunnelSignIn (.start routes (Identity.tunnelLoginRequest username password))
  | .refresh => .asking
  | .write w => .writing w
  | .rearm => .arming
  | .redirect request generation => .redirecting request generation

/-- How a caller goes on with the result of a request. -/
def Goal.next (goal : Goal) (result : Except ApiError Response) : Activity :=
  match goal with
  | .response => .finished (.response result)
  | .signIn =>
    match Identity.signedIn result with
    | .ok pair => .installing pair
    | .error e => .finished (.signedIn (.error e))
  | .tunnelSignIn =>
    match Identity.tunnelSignedIn result with
    | .ok token => .keeping token
    | .error e => .finished (.tunnelSignedIn (.error e))
  | .signOut => .closing

/-! ### The console -/

/-- Who sends a request. -/
inductive Sender where
  | caller (id : Nat)
  | cycle (id : CycleId)
  deriving Repr, DecidableEq

/-- A request that was handed to the transport. -/
structure Transmission where
  sender : Sender
  request : Request

/-- A console: what its callers share, and where each of them stands. -/
structure Console (β : Type) where
  routes : RouteTable := .standard
  store : Store β
  redirector : Redirector := { loginPath := Endpoint.signIn }
  /-- The cycle that whoever needs a renewal waits for. -/
  pending : Option CycleId := none
  cycles : List Cycle := []
  callers : List Activity := []
  /-- All that was sent, last one first. -/
  log : List Transmission := []

namespace Console

variable {β : Type}

/-- Someone is signed in. -/
def isAuthenticated (c : Console β) : Bool := (c.store.get .access).isSome

/-- A renewal is under way. -/
def isRefreshing (c : Console β) : Bool := c.pending.isSome

/-- How many cycles were started so far. -/
def cyclesStarted (c : Console β) : Nat := c.cycles.length

/-- What those who wait for a cycle get, once there is something to get. -/
def outcome? (c : Console β) (id : CycleId) : Option RenewalOutcome :=
  c.cycles[id]?.bind Cycle.outcome?

/-- The console after a request was handed to the transport. -/
def transmit (c : Console β) (sender : Sender) (request : Request) : Console β :=
  { c with log := ⟨sender, request⟩ :: c.log }

end Console

end AdminConsole
