import AdminConsole.Proofs.Console.Attaching
import AdminConsole.Proofs.Http.Bearer

/-!
# What a request is sent with

Authenticating a request goes through a list of attachments, each of which may fill a header from
one of several sources. `authenticate_attaches` says what this comes to as a whole, for every table
of routes, every store and every request: which source each header and the address is filled from
(`Supply.fill`), and that nothing can go wrong but a token that may not stand in a header
(`Supply.isFit`, `Supply.fault`).

The attachments are first computed one by one, each as a function of what the store has for it, then
put together in their order (`Attachment.carryOut_ofScope`). What they come to is read off there.
-/

namespace AdminConsole

open HeaderValue

/-! ### What the store has for a request -/

/-- What there is for a request: a token for the bearer, a token for the header of its own, and a
peer that it is passed through to. -/
structure Supply where
  bearer : Option String
  tunnelToken : Option String
  peer : Option Peer

/-- What the store has for a request of a scope. -/
def Store.supplyFor {β : Type} (scope : Scope) (path : String) (s : Store β) : Supply where
  bearer :=
    match scope with
    | .primary | .tunnelGeneric => s.get .access
    | .tunnelClientOrServer => (s.get .access).or (s.get .tunnelServer)
    | .unscoped => none
  tunnelToken :=
    match scope with
    | .tunnelGeneric => s.get .tunnel
    | .primary | .tunnelClientOrServer | .unscoped => none
  peer :=
    if scope = .tunnelClientOrServer ∧ Path.begins Endpoint.proxy path = true then s.peer else none

namespace Supply

/-- The token of the peer, where neither the store nor the caller has anything else for the
header. -/
def peerToken (request : Request) (supply : Supply) : Option String :=
  if supply.bearer = none ∧ request.headers.authorization = none then supply.peer.bind Peer.token
  else none

/-- Every token for the request may stand in a header. -/
def isFit (request : Request) (supply : Supply) : Bool :=
  supply.bearer.all isValid && supply.tunnelToken.all isValid &&
    (supply.peerToken request).all isValid

/-- What is wrong with the first token that may not stand in a header. -/
def fault (supply : Supply) : RequestFault :=
  if supply.bearer.all isValid && !supply.tunnelToken.all isValid then .tunnelTokenNotHeaderValue
  else .credentialNotHeaderValue

/-- The request with all that there is for it. The store comes before the caller in a header, and
the caller before the peer, also in the address. -/
def fill (request : Request) (supply : Supply) : Request :=
  { request with
    headers := { request.headers with
      authorization :=
        (supply.bearer.map (bearerScheme ++ ·)).or
          (request.headers.authorization.or
            ((supply.peer.bind Peer.token).map (bearerScheme ++ ·)))
      tunnelToken := supply.tunnelToken.or request.headers.tunnelToken }
    options := { request.options with
      baseUrl := request.options.baseUrl.or (supply.peer.map Peer.baseUrl) } }

theorem peerToken_eq_some_iff {request : Request} {supply : Supply} {token : String} :
    supply.peerToken request = some token ↔
      supply.bearer = none ∧ request.headers.authorization = none ∧
        ∃ peer, supply.peer = some peer ∧ peer.token = some token := by
  rw [peerToken, Option.ite_none_right_eq_some, Option.bind_eq_some_iff, and_assoc]

/-- The peer's token comes last, where there is nothing else for the header. -/
theorem authorization_fill (request : Request) (supply : Supply) :
    (supply.fill request).headers.authorization =
      ((supply.peerToken request).map (bearerScheme ++ ·)).or
        ((supply.bearer.map (bearerScheme ++ ·)).or request.headers.authorization) := by
  simp only [peerToken, fill]
  cases supply.bearer <;> cases request.headers.authorization <;> simp

end Supply

theorem Store.peer_supplyFor_eq_some_iff {β : Type} {store : Store β} {scope : Scope}
    {path : String} {peer : Peer} :
    (store.supplyFor scope path).peer = some peer ↔
      (scope = .tunnelClientOrServer ∧ Path.begins Endpoint.proxy path = true) ∧
        store.peer = some peer :=
  Option.ite_none_right_eq_some

/-- The request as it goes to the peer, unless the caller gave another address. -/
def Request.addressedTo (peer : Peer) (request : Request) : Request :=
  { request with options := { request.options with
    baseUrl := request.options.baseUrl.or (some peer.baseUrl) } }

/-! ### One attachment -/

namespace Attachment

variable {β : Type} (store : Store β) (request : Request)

/-- The request with a bearer token, if there is one. -/
def fillBearer (token : Option String) (request : Request) : Request × Option ApiError :=
  if token.all isValid then
    ({ request with headers := { request.headers with
      authorization := (token.map (bearerScheme ++ ·)).or request.headers.authorization } }, none)
  else (request, some (.invalidRequest .credentialNotHeaderValue))

/-- The request with a tunnel token, if there is one. -/
def fillTunnelToken (token : Option String) (request : Request) : Request × Option ApiError :=
  if token.all isValid then
    ({ request with headers := { request.headers with
      tunnelToken := token.or request.headers.tunnelToken } }, none)
  else (request, some (.invalidRequest .tunnelTokenNotHeaderValue))

/-- The request as it is passed through to a peer, if there is one. -/
def fillPeer (peer : Option Peer) (request : Request) : Request × Option ApiError :=
  match peer with
  | none => (request, none)
  | some peer =>
    fillBearer (if request.headers.authorization = none then peer.token else none)
      (request.addressedTo peer)

theorem withBearer_eq (token : String) :
    withBearer request token =
      if isValid token then .ok (request.withAuthorization (bearerScheme ++ token))
      else .error (.invalidRequest .credentialNotHeaderValue) := by
  rw [withBearer, ofBearer?_eq]
  cases isValid token <;> rfl

theorem ofResult_withBearer (token : String) :
    Progress.ofResult request (withBearer request token) =
      { request := (fillBearer (some token) request).1
        failure := (fillBearer (some token) request).2 } := by
  rw [withBearer_eq, fillBearer, Option.all_some]
  cases isValid token <;> rfl

/-- An attachment of which nothing remains is carried out in one reading of the store. -/
theorem attachAll_of_attach {a : Attachment} {result : Request × Option ApiError}
    (h : a.attach store request = { request := result.1, failure := result.2 }) :
    attachAll store request a = result := by
  rw [attachAll_of_not_remaining (by rw [h]), h]

/-- The first credential that is there is attached, if it may stand in a header. -/
theorem attachAll_bearer (keys : List CredentialKey) :
    attachAll store request (.bearer keys) = fillBearer (keys.findSome? store.get) request := by
  induction keys with
  | nil => exact attachAll_of_not_remaining rfl
  | cons key keys ih =>
    rw [List.findSome?_cons]
    cases hget : store.get key with
    | none =>
      have hattach : (Attachment.bearer (key :: keys)).attach store request =
          { request := request, remaining := some (.bearer keys) } := by
        simp only [attach, hget]
      rw [attachAll_of_remaining (by rw [hattach]), hattach]
      exact ih
    | some token =>
      refine attachAll_of_attach store request ?_
      simp only [attach, hget, ofResult_withBearer]

theorem attachAll_tunnelToken :
    attachAll store request .tunnelToken = fillTunnelToken (store.get .tunnel) request := by
  refine attachAll_of_attach store request ?_
  cases hget : store.get .tunnel with
  | none =>
    simp only [attach, hget]
    rfl
  | some token =>
    simp only [attach, hget, withTunnelToken, fillTunnelToken, Option.all_some]
    cases isValid token <;> rfl

/-- The peer's address is used where the caller gave none, and the peer's token where there is no
other. -/
theorem routed_eq (peer : Peer) : routed request peer = fillPeer (some peer) request := by
  obtain ⟨method, path, body, ⟨authorization, tunnelToken, others⟩, ⟨silent, bypassAuth, baseUrl⟩,
    retried⟩ := request
  obtain ⟨address, token⟩ := peer
  cases token with
  | none =>
    rw [fillPeer, ite_self]
    cases baseUrl <;> rfl
  | some token =>
    cases authorization with
    | some value => cases baseUrl <;> rfl
    | none =>
      -- the token is attached to the request as it is addressed
      rw [fillPeer, if_pos rfl, fillBearer, Option.all_some]
      cases baseUrl <;> simp only [routed, withBearer_eq] <;> cases isValid token <;> rfl

theorem attachAll_peer : attachAll store request .peer = fillPeer store.peer request := by
  refine attachAll_of_attach store request ?_
  cases hpeer : store.peer with
  | none => simp only [attach, hpeer, fillPeer]
  | some peer => simp only [attach, hpeer, routed_eq]

/-! ### All attachments -/

/-- Goes on with a request unless something was wrong with it. -/
def andThen (fill : Request → Request × Option ApiError) :
    Request × Option ApiError → Request × Option ApiError
  | (request, none) => fill request
  | (request, some e) => (request, some e)

theorem carryOut_cons (a : Attachment) (rest : List Attachment) :
    carryOut store request (a :: rest) =
      andThen (carryOut store · rest) (attachAll store request a) := by
  rw [carryOut]
  rcases attachAll store request a with ⟨r, _ | e⟩ <;> rfl

theorem carryOut_singleton (a : Attachment) :
    carryOut store request [a] = attachAll store request a := by
  rw [carryOut_cons]
  rcases attachAll store request a with ⟨r, _ | e⟩ <;> rfl

theorem andThen_fillTunnelToken_none (result : Request × Option ApiError) :
    andThen (fillTunnelToken none) result = result := by
  rcases result with ⟨r, _ | e⟩ <;> rfl

theorem andThen_fillPeer_none (result : Request × Option ApiError) :
    andThen (fillPeer none) result = result := by
  rcases result with ⟨r, _ | e⟩ <;> rfl

/-- **Order.** The bearer token is filled first, and the peer comes last. -/
theorem carryOut_ofScope (scope : Scope) :
    carryOut store request (ofScope scope request.path) =
      andThen (fillPeer (store.supplyFor scope request.path).peer)
        (andThen (fillTunnelToken (store.supplyFor scope request.path).tunnelToken)
          (fillBearer (store.supplyFor scope request.path).bearer request)) := by
  cases scope with
  | unscoped => rfl
  | primary =>
    have hsource : [CredentialKey.access].findSome? store.get = store.get .access := by
      rw [List.findSome?_singleton]
    rw [ofScope, carryOut_singleton, attachAll_bearer, hsource]
    exact (andThen_fillPeer_none _).symm.trans (congrArg _ (andThen_fillTunnelToken_none _).symm)
  | tunnelGeneric =>
    have hsource : [CredentialKey.access].findSome? store.get = store.get .access := by
      rw [List.findSome?_singleton]
    rw [ofScope, carryOut_cons, attachAll_bearer, hsource]
    simp only [carryOut_singleton, attachAll_tunnelToken]
    exact (andThen_fillPeer_none _).symm
  | tunnelClientOrServer =>
    have hsources : [CredentialKey.access, .tunnelServer].findSome? store.get =
        (store.get .access).or (store.get .tunnelServer) := by
      simp only [List.findSome?_cons, List.findSome?_nil]
      cases store.get .access <;> cases store.get .tunnelServer <;> rfl
    rw [ofScope, carryOut_cons, attachAll_bearer, hsources, Store.supplyFor]
    simp only [andThen_fillTunnelToken_none, true_and]
    cases Path.begins Endpoint.proxy request.path with
    | true => simp only [carryOut_singleton, attachAll_peer, if_true]
    | false =>
      simp only [Bool.false_eq_true, if_false, andThen_fillPeer_none]
      rcases fillBearer _ request with ⟨r, _ | e⟩ <;> rfl

/-- The peer's token is used exactly where there is nothing else for the header by then. -/
theorem peerToken_eq (supply : Supply) (peer : Peer) (hpeer : supply.peer = some peer) :
    (if (supply.bearer.map (bearerScheme ++ ·)).or request.headers.authorization = none then
      peer.token else none) = supply.peerToken request := by
  simp only [Supply.peerToken, hpeer, Option.bind_some, Option.or_eq_none_iff,
    Option.map_eq_none_iff]

/-- The peer comes last, with its token and with its address. -/
theorem fillPeer_eq (supply : Supply) {filled : Request}
    (hfilled : filled = { request with headers := { request.headers with
      authorization := (supply.bearer.map (bearerScheme ++ ·)).or request.headers.authorization
      tunnelToken := supply.tunnelToken.or request.headers.tunnelToken } }) :
    if (supply.peerToken request).all isValid then
      fillPeer supply.peer filled = (supply.fill request, none)
    else (fillPeer supply.peer filled).2 = some (.invalidRequest .credentialNotHeaderValue) := by
  subst hfilled
  cases hpeer : supply.peer with
  | none => simp [Supply.peerToken, Supply.fill, fillPeer, hpeer]
  | some peer =>
    simp only [fillPeer]
    rw [peerToken_eq request supply peer hpeer]
    split <;> rename_i hvalid
    · rw [fillBearer, if_pos hvalid]
      simp only [Request.addressedTo, ← Supply.authorization_fill]
      simp only [Supply.fill, hpeer, Option.map_some]
    · rw [fillBearer, if_neg hvalid]

/-- **All attachments.** -/
theorem andThen_fill (supply : Supply) :
    let result := andThen (fillPeer supply.peer)
      (andThen (fillTunnelToken supply.tunnelToken) (fillBearer supply.bearer request))
    if supply.isFit request then result = (supply.fill request, none)
    else result.2 = some (.invalidRequest supply.fault) := by
  intro result
  cases hbearer : supply.bearer.all isValid with
  | false => simp [result, fillBearer, hbearer, andThen, Supply.isFit, Supply.fault]
  | true =>
    cases htunnel : supply.tunnelToken.all isValid with
    | false =>
      simp [result, fillBearer, fillTunnelToken, hbearer, htunnel, andThen, Supply.isFit,
        Supply.fault]
    | true =>
      have hlast := fillPeer_eq request supply rfl
      simpa [result, fillBearer, fillTunnelToken, hbearer, htunnel, andThen, Supply.isFit,
        Supply.fault] using hlast

end Attachment

section Authenticate

variable {β : Type} (routes : RouteTable) (store : Store β) {request : Request}

theorem authenticate_of_bypassAuth (h : request.options.bypassAuth = true) :
    authenticate routes store request = (.ok (routes.classify request.path), request) := by
  simp only [authenticate, Attachment.plan, h, if_true, Attachment.carryOut]

theorem authenticate_eq (h : request.options.bypassAuth = false) :
    let scope := routes.classify request.path
    let supply := store.supplyFor scope request.path
    if supply.isFit request then
      authenticate routes store request = (.ok scope, supply.fill request)
    else (authenticate routes store request).1 = .error (.invalidRequest supply.fault) := by
  intro scope supply
  have hfill := Attachment.andThen_fill request supply
  rw [← Attachment.carryOut_ofScope store request scope] at hfill
  simp only [authenticate, Attachment.plan, h, Bool.false_eq_true, if_false]
  split <;> rename_i hfit
  · rw [if_pos hfit] at hfill
    rw [hfill]
  · rw [if_neg hfit] at hfill
    rcases hcarried : Attachment.carryOut store request (Attachment.ofScope scope request.path)
      with ⟨r, failure⟩
    rw [hcarried] at hfill
    obtain rfl : failure = some (.invalidRequest supply.fault) := hfill
    rfl

/-- **Authentication.** A request that wants no credentials is left as it is. Any other one gets
what the store has for its scope, and nothing else about it changes; unless one of the tokens for it
may not stand in a header, and then that is the error. -/
theorem authenticate_attaches (routes : RouteTable) (store : Store β) (request : Request) :
    let scope := routes.classify request.path
    let supply := store.supplyFor scope request.path
    if request.options.bypassAuth then authenticate routes store request = (.ok scope, request)
    else if supply.isFit request then
      authenticate routes store request = (.ok scope, supply.fill request)
    else (authenticate routes store request).1 = .error (.invalidRequest supply.fault) := by
  intro scope supply
  cases hbypass : request.options.bypassAuth with
  | true => exact authenticate_of_bypassAuth routes store hbypass
  | false => exact authenticate_eq routes store hbypass

end Authenticate

end AdminConsole
