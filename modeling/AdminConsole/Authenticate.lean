import AdminConsole.Credentials.Store
import AdminConsole.Error

/-!
# Attaching credentials

The scope of a request decides which credentials it carries: the session's access token for its own
endpoints, the access token or else the tunnel server's token for the tunnel server, the access
token and the tunnel token side by side for the older tunnel endpoints, nothing for public ones.
A request below the pass-through prefix moreover goes to the selected federation peer, with the
peer's token if nothing else filled the header.

Each `Attachment` reads the store once. `authenticate` carries out all of them on one store; a
console whose store may change in between carries them out one at a time.
-/

namespace AdminConsole

/-- Something to be attached to a request. -/
inductive Attachment where
  /-- The first of these credentials that there is, as the bearer token. -/
  | bearer (sources : List CredentialKey)
  /-- The tunnel token, in a header of its own. -/
  | tunnelToken
  /-- The address of the selected peer, and its token where there is no bearer token yet. -/
  | peer
  deriving Repr, DecidableEq, Inhabited

namespace Attachment

/-- What is attached to the requests of a scope. -/
def ofScope (scope : Scope) (path : String) : List Attachment :=
  match scope with
  | .primary => [.bearer [.access]]
  | .tunnelClientOrServer =>
    .bearer [.access, .tunnelServer] :: if Path.begins Endpoint.proxy path then [.peer] else []
  | .tunnelGeneric => [.bearer [.access], .tunnelToken]
  | .unscoped => []

/-- What is attached to a request. -/
def plan (request : Request) (scope : Scope) : List Attachment :=
  if request.options.bypassAuth then [] else ofScope scope request.path

variable {β : Type}

/-- The request with a bearer token. -/
def withBearer (request : Request) (token : String) : Except ApiError Request :=
  match HeaderValue.ofBearer? token with
  | some v => .ok (request.withAuthorization v)
  | none => .error (.invalidRequest .credentialNotHeaderValue)

/-- The request with a tunnel token. -/
def withTunnelToken (request : Request) (token : String) : Except ApiError Request :=
  if HeaderValue.isValid token then
    .ok { request with headers := { request.headers with tunnelToken := some token } }
  else .error (.invalidRequest .tunnelTokenNotHeaderValue)

/-- The request as it goes to a peer: an address that the caller gave stays, and so does a header
that is already there. The request is given back even if the peer's token may not stand in a
header. -/
def routed (request : Request) (peer : Peer) : Request × Option ApiError :=
  let request :=
    match request.options.baseUrl with
    | some _ => request
    | none => { request with options := { request.options with baseUrl := some peer.baseUrl } }
  match peer.token, request.headers.authorization with
  | some token, none =>
    match withBearer request token with
    | .ok r => (r, none)
    | .error e => (request, some e)
  | _, _ => (request, none)

/-- One reading of the store for an attachment: the request afterwards, what remains to be done for
this attachment, and the error that it ends in if it fails. -/
structure Progress where
  request : Request
  remaining : Option Attachment := none
  failure : Option ApiError := none

/-- The progress that attaching a token makes. -/
def Progress.ofResult (request : Request) : Except ApiError Request → Progress
  | .ok r => { request := r }
  | .error e => { request := request, failure := some e }

/-- Carries out one reading of the store for an attachment. -/
def attach (store : Store β) (request : Request) : Attachment → Progress
  | .bearer [] => { request := request }
  | .bearer (key :: keys) =>
    match store.get key with
    | some token => .ofResult request (withBearer request token)
    | none => { request := request, remaining := some (.bearer keys) }
  | .tunnelToken =>
    match store.get .tunnel with
    | some token => .ofResult request (withTunnelToken request token)
    | none => { request := request }
  | .peer =>
    match store.peer with
    | some selected =>
      let (r, failure) := routed request selected
      { request := r, failure := failure }
    | none => { request := request }

/-- How many readings of the store an attachment takes at most. -/
def cost : Attachment → Nat
  | .bearer sources => sources.length + 1
  | .tunnelToken | .peer => 1

theorem cost_remaining_lt (store : Store β) (request : Request) (a b : Attachment)
    (h : (attach store request a).remaining = some b) : b.cost < a.cost := by
  cases a with
  | bearer sources =>
    cases sources with
    | nil => simp [attach] at h
    | cons k ks =>
      simp only [attach] at h
      split at h
      · unfold Progress.ofResult at h
        split at h <;> simp at h
      · simp only [Option.some.injEq] at h
        subst h
        simp [cost]
  | tunnelToken =>
    simp only [attach] at h
    split at h
    · unfold Progress.ofResult at h
      split at h <;> simp at h
    · simp at h
  | peer =>
    simp only [attach] at h
    split at h <;> simp at h

/-- Carries out an attachment on one store. -/
def attachAll (store : Store β) (request : Request) (a : Attachment) : Request × Option ApiError :=
  match _h : (attach store request a).remaining with
  | some b => attachAll store (attach store request a).request b
  | none => ((attach store request a).request, (attach store request a).failure)
termination_by a.cost
decreasing_by exact cost_remaining_lt store request a b (by assumption)

/-- Carries out a list of attachments on one store, up to the first that fails. -/
def carryOut (store : Store β) (request : Request) : List Attachment → Request × Option ApiError
  | [] => (request, none)
  | a :: rest =>
    match attachAll store request a with
    | (r, none) => carryOut store r rest
    | (r, some e) => (r, some e)

end Attachment

/-- Attaches the credentials of a request's scope. The request is given back as it stands, also
after an error. -/
def authenticate {β : Type} (routes : RouteTable) (store : Store β)
    (request : Request) : Except ApiError Scope × Request :=
  let scope := routes.classify request.path
  match Attachment.carryOut store request (Attachment.plan request scope) with
  | (r, none) => (.ok scope, r)
  | (r, some e) => (.error e, r)

end AdminConsole
