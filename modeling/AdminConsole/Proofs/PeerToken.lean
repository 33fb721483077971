import AdminConsole.Proofs.Authenticate
import AdminConsole.Proofs.Route.Standard

/-!
# Where the token of a peer goes

A request that is passed through to a federation peer gets its address and its bearer token from the
same peer, but each of them only where there is no other: the address unless the caller gave one,
and the token unless the session, the tunnel server or the caller has one for the header. Neither
test looks at the outcome of the other. So `peer_token_address` has the conditions under which the
header is filled from the peer's token, among which the address is not, and says that the request
then goes to the address that the caller gave. In that way the token gets to somebody else
(`peer_token_misdirected`).
-/

namespace AdminConsole

open HeaderValue

variable {β : Type} {routes : RouteTable} {store : Store β} {request : Request}

/-- The store, as if the selected peer had no token. -/
def Store.withoutPeerToken (store : Store β) : Store β :=
  { store with peer := store.peer.map fun peer => { peer with token := none } }

/-- The request is authenticated, and its header is filled from the token of the selected peer:
without that token it would be another one. -/
def FilledFromPeer (routes : RouteTable) (store : Store β) (request : Request) : Prop :=
  ∃ scope sent, authenticate routes store request = (.ok scope, sent) ∧
    sent.headers.authorization ≠
      (authenticate routes store.withoutPeerToken request).2.headers.authorization

/-- What it takes for a request to be given the token of the selected peer. -/
structure TakesPeerToken (routes : RouteTable) (store : Store β) (request : Request) (peer : Peer)
    (token : String) : Prop where
  selected : store.peer = some peer
  offers : peer.token = some token
  valid : isValid token = true
  attaches : request.options.bypassAuth = false
  scope : routes.classify request.path = .tunnelClientOrServer
  below : Path.begins Endpoint.proxy request.path = true
  access : store.get .access = none
  tunnelServer : store.get .tunnelServer = none
  authorization : request.headers.authorization = none

/-- A peer without a token takes nothing away but the token. -/
theorem supplyFor_withoutPeerToken (scope : Scope) (path : String) :
    store.withoutPeerToken.supplyFor scope path =
      { store.supplyFor scope path with
        peer :=
          (store.supplyFor scope path).peer.map fun peer => { peer with token := none } } := by
  simp only [Store.supplyFor, Store.withoutPeerToken, apply_ite (Option.map _), Option.map_none]
  rfl

/-- Whatever is fit with the token of the peer is so without it, and then nothing comes from the
peer into the header. -/
theorem authorization_withoutPeerToken (hattaches : request.options.bypassAuth = false)
    (hfit : (store.supplyFor (routes.classify request.path) request.path).isFit request = true) :
    (authenticate routes store.withoutPeerToken request).2.headers.authorization =
      ((store.supplyFor (routes.classify request.path) request.path).bearer.map
        (bearerScheme ++ ·)).or request.headers.authorization := by
  have hauth := authenticate_eq routes store.withoutPeerToken hattaches
  dsimp only at hauth
  rw [supplyFor_withoutPeerToken] at hauth
  generalize store.supplyFor (routes.classify request.path) request.path = supply at hauth hfit ⊢
  have htokenless : (supply.peer.map fun peer => { peer with token := none }).bind Peer.token =
      none := by
    cases supply.peer <;> rfl
  rw [if_pos] at hauth
  · rw [hauth]
    simp only [Supply.fill, htokenless, Option.map_none, Option.or_none]
  · simp only [Supply.isFit, Bool.and_eq_true] at hfit
    simp only [Supply.isFit, Supply.peerToken, htokenless, ite_self, hfit.1.1, hfit.1.2,
      Option.all_none, Bool.and_self]

variable {peer : Peer} {token : String}

theorem TakesPeerToken.supplyFor_eq (h : TakesPeerToken routes store request peer token) :
    store.supplyFor (routes.classify request.path) request.path = ⟨none, none, some peer⟩ := by
  simp only [Store.supplyFor, h.scope, h.below, h.access, h.tunnelServer, h.selected,
    Option.or_self, and_self, if_true]

theorem TakesPeerToken.isFit (h : TakesPeerToken routes store request peer token) :
    (store.supplyFor (routes.classify request.path) request.path).isFit request = true := by
  rw [h.supplyFor_eq]
  simp only [Supply.isFit, Supply.peerToken, h.authorization, h.offers, h.valid, Option.all_none,
    Option.bind_some, Option.all_some, and_self, if_true, Bool.and_self]

/-- The token goes into the header, and the request goes to the address that the caller gave, or
else to the peer. -/
theorem TakesPeerToken.authenticate_eq (h : TakesPeerToken routes store request peer token) :
    authenticate routes store request =
      (.ok .tunnelClientOrServer,
        { request with
          headers := { request.headers with authorization := some (bearerScheme ++ token) }
          options := { request.options with
            baseUrl := some (request.options.baseUrl.getD peer.baseUrl) } }) := by
  have hauth := AdminConsole.authenticate_eq routes store h.attaches
  have haddress : request.options.baseUrl.or (some peer.baseUrl) =
      some (request.options.baseUrl.getD peer.baseUrl) := by
    cases request.options.baseUrl <;> rfl
  dsimp only at hauth
  rw [if_pos h.isFit, h.supplyFor_eq, h.scope] at hauth
  rw [hauth]
  simp only [Supply.fill, h.authorization, h.offers, haddress, Option.map_none, Option.map_some,
    Option.bind_some, Option.none_or]

/-- A peer's token that is fit and has nothing before it is one that the request is given. -/
theorem exists_takesPeerToken (hattaches : request.options.bypassAuth = false)
    (hfit : (store.supplyFor (routes.classify request.path) request.path).isFit request = true)
    (htoken : (store.supplyFor (routes.classify request.path) request.path).peerToken request =
      some token) :
    ∃ peer, TakesPeerToken routes store request peer token := by
  have hvalid : isValid token = true := by
    simp only [Supply.isFit, htoken, Option.all_some, Bool.and_eq_true] at hfit
    exact hfit.2
  obtain ⟨hbearer, hown, peer, hpeer, hoffers⟩ := Supply.peerToken_eq_some_iff.mp htoken
  obtain ⟨⟨hscope, hbelow⟩, hselected⟩ := Store.peer_supplyFor_eq_some_iff.mp hpeer
  rw [hscope] at hbearer
  obtain ⟨haccess, htunnelServer⟩ := Option.or_eq_none_iff.mp hbearer
  exact ⟨peer, hselected, hoffers, hvalid, hattaches, hscope, hbelow, haccess, htunnelServer, hown⟩

/-- **Whose token.** The header is filled from the token of the selected peer exactly if neither the
store nor the caller has anything else for it. -/
theorem filledFromPeer_iff :
    FilledFromPeer routes store request ↔
      ∃ peer token, TakesPeerToken routes store request peer token := by
  constructor
  · rintro ⟨scope, sent, hauth, hne⟩
    cases hattaches : request.options.bypassAuth with
    | true =>
      rw [authenticate_of_bypassAuth _ _ hattaches] at hauth hne
      cases hauth
      exact absurd rfl hne
    | false =>
      have hfill := authenticate_eq routes store hattaches
      dsimp only at hfill
      split at hfill <;> rename_i hfit
      · rw [hauth] at hfill
        cases hfill
        rw [authorization_withoutPeerToken hattaches hfit, Supply.authorization_fill] at hne
        cases htoken : (store.supplyFor (routes.classify request.path) request.path).peerToken
            request with
        | none =>
          rw [htoken] at hne
          exact absurd rfl hne
        | some token =>
          obtain ⟨peer, h⟩ := exists_takesPeerToken hattaches hfit htoken
          exact ⟨peer, token, h⟩
      · rw [hauth] at hfill
        cases hfill
  · rintro ⟨peer, token, h⟩
    refine ⟨_, _, h.authenticate_eq, ?_⟩
    rw [authorization_withoutPeerToken h.attaches h.isFit, h.supplyFor_eq, h.authorization]
    exact Option.some_ne_none _

/-- **The token of a peer.** The header of a request is filled from the token of the selected peer
exactly if the request is passed through to the peer and there is nothing else for the header, in
the store or from the caller. Wherever the caller wants the request to go, it goes there with the
token, and to the peer only if the caller has named no address; so it goes to the address of the
peer exactly if the caller has named no other one. -/
theorem peer_token_address (routes : RouteTable) (store : Store β) (request : Request) :
    (FilledFromPeer routes store request ↔
      ∃ peer token, TakesPeerToken routes store request peer token) ∧
    ∀ peer token, TakesPeerToken routes store request peer token →
      authenticate routes store request =
        (.ok .tunnelClientOrServer,
          { request with
            headers := { request.headers with authorization := some (bearerScheme ++ token) }
            options := { request.options with
              baseUrl := some (request.options.baseUrl.getD peer.baseUrl) } }) ∧
      ((authenticate routes store request).2.options.baseUrl = some peer.baseUrl ↔
        ∀ address, request.options.baseUrl = some address → address = peer.baseUrl) := by
  refine ⟨filledFromPeer_iff, fun peer token h => ⟨h.authenticate_eq, ?_⟩⟩
  rw [h.authenticate_eq]
  cases request.options.baseUrl <;> simp

/-- A store with nothing but a selected peer. -/
def peered : Store MemoryBackend :=
  { Store.inMemory {} with peer := some ⟨"https://peer.example.com", some "P1"⟩ }

/-- A request to be passed through, to an address if one is given. -/
def passThrough (baseUrl : Option String) : Request :=
  { method := .get, path := "/api/v1/tunnel/proxy/domains", options := { baseUrl := baseUrl } }

theorem path_passThrough (baseUrl : Option String) :
    (passThrough baseUrl).path = "/api/v1/tunnel/proxy/domains" :=
  rfl

theorem takesPeerToken_passThrough (baseUrl : Option String) :
    TakesPeerToken .standard peered (passThrough baseUrl) ⟨"https://peer.example.com", some "P1"⟩
      "P1" where
  selected := rfl
  offers := rfl
  valid := by decide
  attaches := rfl
  scope := by
    rw [path_passThrough, RouteTable.standard_eq]
    decide
  below := by
    rw [path_passThrough]
    decide
  access := rfl
  tunnelServer := rfl
  authorization := rfl

/-- Without an address of the caller's the token goes to its peer. -/
theorem peer_token_passedThrough :
    FilledFromPeer .standard peered (passThrough none) ∧
      (authenticate .standard peered (passThrough none)).2.options.baseUrl =
        some "https://peer.example.com" := by
  have htakes := takesPeerToken_passThrough none
  obtain ⟨hfilled, haddress⟩ := peer_token_address .standard peered (passThrough none)
  exact ⟨hfilled.mpr ⟨_, _, htakes⟩, (haddress _ _ htakes).2.mpr nofun⟩

/-- With an address of the caller's the token of the peer goes there. -/
theorem peer_token_misdirected :
    let other := passThrough (some "https://other.example.com")
    let sent := (authenticate .standard peered other).2
    peered.peer = some ⟨"https://peer.example.com", some "P1"⟩ ∧
      FilledFromPeer .standard peered other ∧
      sent.headers.authorization = some "Bearer P1" ∧
      sent.options.baseUrl = some "https://other.example.com" ∧
      sent.address "http://127.0.0.1:6001" =
        "https://other.example.com/api/v1/tunnel/proxy/domains" := by
  intro other sent
  have htakes := takesPeerToken_passThrough (some "https://other.example.com")
  have hsent : sent = (authenticate .standard peered other).2 := rfl
  rw [htakes.authenticate_eq] at hsent
  refine ⟨rfl, filledFromPeer_iff.mpr ⟨_, _, htakes⟩, ?_⟩
  rw [hsent]
  exact ⟨by decide, rfl, by decide⟩

end AdminConsole
