import AdminConsole.Proofs.PeerToken
import AdminConsole.Proofs.Recovery
import AdminConsole.Proofs.Route.LongestPrefix
import AdminConsole.Redirector
import Mathlib.Tactic.TFAE

/-!
# Spellings of a path

The path of a request is looked at in several places: to find its scope, to see whether the request
is passed through to a peer, whether it renews a session, and whether it goes to the login page. Each
place does so on its own, so two spellings of one path may be told apart by some of them.

* A query or a fragment decides nothing (`query_decides_nothing`). All places but one cut it off, and
  that one looks for a prefix without marks, which begins a path exactly if it begins the path cut
  off.
* A slash in front, which an address gets in any case, decides everything else: without it no entry
  of the standard table covers a path, so the path is of the session's own scope. That is no
  difference exactly for the paths that are of this scope with the slash as well
  (`relative_path_scope`). One that is not is `relative_signIn_guarded`.

What is attached to a request depends on its path through the plan of attachments only
(`authenticate_withPath`).
-/

namespace AdminConsole

open Attachment

/-- The request with another path. -/
def Request.withPath (path : String) (r : Request) : Request := { r with path := path }

@[simp] theorem Request.path_withPath (path : String) (r : Request) :
    (r.withPath path).path = path :=
  rfl

@[simp] theorem Request.route_withPath (path : String) (r : Request) :
    (r.withPath path).route = Path.cut path :=
  rfl

/-! ### Attaching at another path -/

namespace Attachment

variable {β : Type} (store : Store β) (path : String) (request : Request)

theorem fillBearer_withPath (token : Option String) :
    fillBearer token (request.withPath path) =
      Prod.map (Request.withPath path) id (fillBearer token request) := by
  unfold fillBearer
  split <;> rfl

theorem fillTunnelToken_withPath (token : Option String) :
    fillTunnelToken token (request.withPath path) =
      Prod.map (Request.withPath path) id (fillTunnelToken token request) := by
  unfold fillTunnelToken
  split <;> rfl

theorem fillPeer_withPath (peer : Option Peer) :
    fillPeer peer (request.withPath path) =
      Prod.map (Request.withPath path) id (fillPeer peer request) := by
  cases peer with
  | none => rfl
  | some peer => exact fillBearer_withPath path (request.addressedTo peer) _

theorem attachAll_withPath (a : Attachment) :
    attachAll store (request.withPath path) a =
      Prod.map (Request.withPath path) id (attachAll store request a) := by
  cases a with
  | bearer sources =>
    rw [attachAll_bearer, attachAll_bearer]
    exact fillBearer_withPath path request _
  | tunnelToken =>
    rw [attachAll_tunnelToken, attachAll_tunnelToken]
    exact fillTunnelToken_withPath path request _
  | peer =>
    rw [attachAll_peer, attachAll_peer]
    exact fillPeer_withPath path request _

theorem carryOut_withPath (plan : List Attachment) :
    carryOut store (request.withPath path) plan =
      Prod.map (Request.withPath path) id (carryOut store request plan) := by
  induction plan generalizing request with
  | nil => rfl
  | cons a rest ih =>
    rw [carryOut, carryOut, attachAll_withPath]
    rcases attachAll store request a with ⟨r, _ | e⟩
    · exact ih r
    · rfl

end Attachment

section Authenticate

variable {β : Type} {routes : RouteTable} {p q : String}

/-- **What depends on the path.** With two paths of one scope for which the same is to be attached a
request fares alike. -/
theorem authenticate_withPath (store : Store β) (request : Request)
    (hscope : routes.classify q = routes.classify p)
    (hplan : ofScope (routes.classify p) q = ofScope (routes.classify p) p) :
    authenticate routes store (request.withPath q) =
      ((authenticate routes store (request.withPath p)).1,
        (authenticate routes store (request.withPath p)).2.withPath q) := by
  have hsame : plan (request.withPath q) (routes.classify q) =
      plan (request.withPath p) (routes.classify p) := by
    rw [hscope]
    exact congrArg (fun as => if request.options.bypassAuth then [] else as) hplan
  have hcarried : carryOut store (request.withPath q) (plan (request.withPath q)
        (routes.classify q)) =
      Prod.map (Request.withPath q) id (carryOut store (request.withPath p)
        (plan (request.withPath p) (routes.classify p))) := by
    rw [hsame]
    exact carryOut_withPath store q (request.withPath p) _
  rw [authenticate, authenticate, Request.path_withPath, Request.path_withPath, hcarried, hscope]
  rcases carryOut store (request.withPath p) _ with ⟨r, _ | e⟩ <;> rfl

end Authenticate

/-! ### Failing at another path -/

/-- A failure is judged by the route of the request. -/
theorem FailureContext.of_withPath {p q : String} (hroute : Path.cut q = Path.cut p)
    (request : Request) (scope : Scope) (response : Response) (access refresh : Option String) :
    FailureContext.of (request.withPath q) scope response access refresh =
      FailureContext.of (request.withPath p) scope response access refresh := by
  simp only [FailureContext.of, Request.route_withPath, hroute]
  rfl

theorem Redirector.eligible_withPath {p q : String} (hroute : Path.cut q = Path.cut p)
    (redirector : Redirector) (request : Request) :
    redirector.eligible (request.withPath q) = redirector.eligible (request.withPath p) := by
  simp only [eligible, Request.route_withPath, hroute]
  rfl

theorem Redirector.redirect_withPath {p q : String} (hroute : Path.cut q = Path.cut p)
    (redirector : Redirector) (request : Request) (generation : Nat) :
    redirector.redirect (request.withPath q) generation =
      redirector.redirect (request.withPath p) generation := by
  rw [redirect, redirect, mark, mark, eligible_withPath hroute]

/-! ### Query and fragment -/

theorem isPlain_proxy : Path.IsPlain Endpoint.proxy := by decide

/-- What lies below the prefix for passing through is all of one scope. -/
theorem RouteTable.standard_classify_proxy {path : String}
    (h : Path.begins Endpoint.proxy path = true) :
    standard.classify path = .tunnelClientOrServer := by
  obtain ⟨rest, hrest⟩ := Path.begins_iff.mp ((Path.begins_cut isPlain_proxy path).trans h)
  rw [standard_eq, classify, hrest]
  simp only [covers, String.toList_append]
  rfl

/-- **Query and fragment decide nothing.** A path and the same with a query or a fragment behind it
have one scope. A request gets the same attached with either of them, or the same error; its failures
are judged alike; and the user is sent to the login page for both or for none. -/
theorem query_decides_nothing {β : Type} (routes : RouteTable) (store : Store β)
    (redirector : Redirector) (request : Request) {route tail : String}
    (hroute : Path.IsPlain route) (htail : Path.IsTail tail) :
    let path := route ++ tail
    routes.classify path = routes.classify route ∧
    authenticate routes store (request.withPath path) =
      ((authenticate routes store (request.withPath route)).1,
        (authenticate routes store (request.withPath route)).2.withPath path) ∧
    (∀ scope response access refresh,
      FailureContext.of (request.withPath path) scope response access refresh =
        FailureContext.of (request.withPath route) scope response access refresh) ∧
    ∀ generation, redirector.redirect (request.withPath path) generation =
      redirector.redirect (request.withPath route) generation := by
  intro path
  have hparts : Path.Parts path route tail := ⟨rfl, hroute, Or.inr htail⟩
  have hcut : Path.cut path = Path.cut route := hparts.cut_eq.trans hroute.cut_eq.symm
  have hscope : routes.classify path = routes.classify route := routes.classify_congr hcut
  have hproxy : Path.begins Endpoint.proxy path = Path.begins Endpoint.proxy route :=
    hparts.begins_eq isPlain_proxy
  have hplan : ofScope (routes.classify route) path = ofScope (routes.classify route) route := by
    cases routes.classify route <;> simp only [ofScope, hproxy]
  exact ⟨hscope, authenticate_withPath store request hscope hplan,
    FailureContext.of_withPath hcut request, redirector.redirect_withPath hcut request⟩

/-- A request that is passed through to a peer, and gets its address and its token, does so with a
query as well. -/
theorem query_decides_nothing_passedThrough :
    let path := "/api/v1/tunnel/proxy/domains" ++ "?server_id=3#top"
    Path.IsPlain "/api/v1/tunnel/proxy/domains" ∧ Path.IsTail "?server_id=3#top" ∧
      authenticate .standard peered ((passThrough none).withPath path) =
        (.ok .tunnelClientOrServer,
          { (passThrough none).withPath path with
            headers := { authorization := some "Bearer P1" }
            options := { baseUrl := some "https://peer.example.com" } }) := by
  intro path
  have hplain : Path.IsPlain "/api/v1/tunnel/proxy/domains" := by decide
  have htail : Path.IsTail "?server_id=3#top" := by decide
  obtain ⟨-, hauth, -⟩ := query_decides_nothing .standard peered { loginPath := Endpoint.signIn }
    (passThrough none) hplain htail
  refine ⟨hplain, htail, ?_⟩
  have hwithout : (passThrough none).withPath "/api/v1/tunnel/proxy/domains" = passThrough none :=
    rfl
  rw [hwithout, (takesPeerToken_passThrough none).authenticate_eq] at hauth
  exact hauth

/-! ### The slash in front -/

namespace RouteTable

theorem begins_of_mem_standard : ∀ r ∈ standard.routes, Path.begins "/" r.1 = true := by
  rw [standard_eq]
  decide

theorem scope_ne_of_mem_standard : ∀ r ∈ standard.routes, r.2 ≠ .primary := by
  rw [standard_eq]
  decide

/-- The session's own scope is that of the paths that no entry of the standard table covers. -/
theorem standard_classify_eq_primary_iff {path : String} :
    standard.classify path = .primary ↔
      ∀ r ∈ standard.routes, ¬ Route.Covers r.1 (Path.cut path) := by
  simp only [← Route.covers_iff, classify]
  cases hfind : standard.routes.find? fun r => covers r.1 (Path.cut path) with
  | none => simpa using hfind
  | some r =>
    have hmem : r ∈ standard.routes := List.mem_of_find?_eq_some hfind
    have hcovers : covers r.1 (Path.cut path) = true :=
      List.find?_some (p := fun r : Route => covers r.1 (Path.cut path)) hfind
    exact iff_of_false (scope_ne_of_mem_standard r hmem) fun h => h r hmem hcovers

/-- Without a slash in front a path is of the session's own scope. -/
theorem standard_classify_relative {path : String} (h : Path.begins "/" path = false) :
    standard.classify path = .primary := by
  refine standard_classify_eq_primary_iff.mpr fun r hr hcovers => ?_
  obtain ⟨rest, hrest, -⟩ := hcovers
  -- what an entry covers begins with a slash, as the entry does
  have hslash : Path.begins "/" (Path.cut path) = true :=
    Path.begins_trans (begins_of_mem_standard r hr) (Path.begins_iff.mpr ⟨rest, hrest⟩)
  rw [Path.begins_cut (by decide), h] at hslash
  cases hslash

end RouteTable

/-- With either path a request gets the same headers and the same address, whatever is in the
store. -/
def AuthenticatedAlike (routes : RouteTable) (p q : String) : Prop :=
  ∀ (β : Type) (store : Store β) (request : Request),
    (authenticate routes store (request.withPath q)).2.headers =
        (authenticate routes store (request.withPath p)).2.headers ∧
      (authenticate routes store (request.withPath q)).2.options =
        (authenticate routes store (request.withPath p)).2.options

/-- With either path the same becomes of a failed request, whatever the session is. -/
def RecoveredAlike (routes : RouteTable) (p q : String) : Prop :=
  ∀ (request : Request) (response : Response) (access refresh : Option String),
    (FailureContext.of (request.withPath q) (routes.classify q) response access refresh).decide =
      (FailureContext.of (request.withPath p) (routes.classify p) response access refresh).decide

/-- No peer is selected, and all that there is for the requests of a scope may stand in a header. -/
structure Store.IsPlain {β : Type} (store : Store β) (scope : Scope) : Prop where
  peer : store.peer = none
  bearer : (store.supplyFor scope "").bearer.all HeaderValue.isValid = true
  tunnelToken : (store.supplyFor scope "").tunnelToken.all HeaderValue.isValid = true

/-- The headers of a request to which no peer has anything to add. -/
theorem headers_authenticate {β : Type} {routes : RouteTable} {store : Store β} (request : Request)
    (hplain : store.IsPlain (routes.classify request.path))
    (hattaches : request.options.bypassAuth = false) :
    (authenticate routes store request).2.headers =
      ((store.supplyFor (routes.classify request.path) "").fill request).headers := by
  have hsupply : store.supplyFor (routes.classify request.path) request.path =
      store.supplyFor (routes.classify request.path) "" := by
    simp only [Store.supplyFor, hplain.peer, ite_self]
  have hpeer : (store.supplyFor (routes.classify request.path) "").peer = none := by
    simp only [Store.supplyFor, hplain.peer, ite_self]
  have hfit : (store.supplyFor (routes.classify request.path) "").isFit request = true := by
    simp only [Supply.isFit, Supply.peerToken, hpeer, hplain.bearer, hplain.tunnelToken,
      Option.bind_none, ite_self, Option.all_none, Bool.and_self]
  have hauth := authenticate_eq routes store hattaches
  dsimp only at hauth
  rw [hsupply, if_pos hfit] at hauth
  rw [hauth]

/-- Paths that are authenticated alike have scopes for which such a store has the same. -/
theorem AuthenticatedAlike.headers_eq {β : Type} {routes : RouteTable} {p q : String}
    (h : AuthenticatedAlike routes p q) {store : Store β} (hp : store.IsPlain (routes.classify p))
    (hq : store.IsPlain (routes.classify q)) :
    ((store.supplyFor (routes.classify q) "").fill { method := .get, path := q }).headers =
      ((store.supplyFor (routes.classify p) "").fill { method := .get, path := p }).headers := by
  let request (path : String) : Request := { method := .get, path := path }
  calc ((store.supplyFor (routes.classify q) "").fill (request q)).headers
      = (authenticate routes store (request q)).2.headers :=
        (headers_authenticate (request q) hq rfl).symm
    _ = (authenticate routes store (request p)).2.headers := (h β store (request p)).1
    _ = ((store.supplyFor (routes.classify p) "").fill (request p)).headers :=
        headers_authenticate (request p) hp rfl

/-- A store with tokens for tunnels only. -/
def tunnelTokens : Store Unit :=
  { stored := { tunnelToken := some "T", tunnelServerToken := some "S" }, backend := () }

/-- A store with an access token only. -/
def accessToken : Store Unit :=
  { stored := { session := ⟨some "A", none⟩ }, backend := () }

theorem isPlain_tunnelTokens (scope : Scope) : tunnelTokens.IsPlain scope := by
  cases scope <;> exact ⟨rfl, by decide, by decide⟩

theorem isPlain_accessToken (scope : Scope) : accessToken.IsPlain scope := by
  cases scope <;> exact ⟨rfl, by decide, by decide⟩

section Relative

open RouteTable

variable {path : String} (hrelative : Path.begins "/" path = false)
include hrelative

theorem authenticatedAlike_of_classify_eq
    (h : standard.classify ("/" ++ path) = standard.classify path) :
    AuthenticatedAlike standard path ("/" ++ path) := by
  intro β store request
  have hplan : ofScope (standard.classify path) ("/" ++ path) =
      ofScope (standard.classify path) path := by
    rw [standard_classify_relative hrelative]
    rfl
  rw [authenticate_withPath store request h hplan]
  exact ⟨rfl, rfl⟩

/-- For every other scope a store can have something that is not attached for the session's own, or
the other way round. -/
theorem classify_eq_of_authenticatedAlike (h : AuthenticatedAlike standard path ("/" ++ path)) :
    standard.classify ("/" ++ path) = standard.classify path := by
  have htunnels := h.headers_eq (isPlain_tunnelTokens _) (isPlain_tunnelTokens _)
  have hsession := h.headers_eq (isPlain_accessToken _) (isPlain_accessToken _)
  rw [standard_classify_relative hrelative] at htunnels hsession ⊢
  cases hrooted : standard.classify ("/" ++ path) with
  | primary => rfl
  | tunnelClientOrServer =>
    rw [hrooted] at htunnels
    cases htunnels
  | tunnelGeneric =>
    rw [hrooted] at htunnels
    cases htunnels
  | unscoped =>
    rw [hrooted] at hsession
    cases hsession

/-- A path without a slash in front is not that of the renewal. -/
theorem route_ne_of_relative (request : Request) :
    (request.withPath path).route ≠ Endpoint.renewal := by
  intro hroute
  have hslash : Path.begins "/" (Path.cut path) = true := by
    rw [← Request.route_withPath path request, hroute]
    decide
  rw [Path.begins_cut (by decide), hrelative] at hslash
  cases hslash

theorem recoveredAlike_of_classify_eq
    (h : standard.classify ("/" ++ path) = standard.classify path) :
    RecoveredAlike standard path ("/" ++ path) := by
  intro request response access refresh
  have hprimary := h.trans (standard_classify_relative hrelative)
  -- with the slash it is not that of the renewal either, which is of another scope
  have hne : (request.withPath ("/" ++ path)).route ≠ Endpoint.renewal := by
    intro hroute
    have hcut : Path.cut ("/" ++ path) = Path.cut Endpoint.renewal := hroute.trans (by decide)
    rw [standard.classify_congr hcut, standard_classify_renewal] at hprimary
    cases hprimary
  have hrenewal := beq_eq_false_iff_ne.mpr hne
  have hrenewal' := beq_eq_false_iff_ne.mpr (route_ne_of_relative hrelative request)
  simp only [FailureContext.of, hrenewal, hrenewal', h]
  rfl

/-- The first failure of a request is answered with a renewal in the session's own scope only. -/
theorem classify_eq_of_recoveredAlike (h : RecoveredAlike standard path ("/" ++ path)) :
    standard.classify ("/" ++ path) = standard.classify path := by
  let request : Request := { method := .get, path := path }
  let response : Response := { status := .unauthorized, body := "" }
  have hprimary := standard_classify_relative hrelative
  have hfirst : (request.withPath path).IsRecoverable :=
    ⟨rfl, route_ne_of_relative hrelative request⟩
  have hrecovers := h request response none (some "R")
  rw [hprimary, FailureContext.decide_of_isRecoverable hfirst rfl] at hrecovers
  rw [hprimary]
  exact (FailureContext.callsForRenewal_of_decide hrecovers).scope

end Relative

/-- **The slash in front.** A path without it goes to the same address as the one with it, but is of
the session's own scope, whatever the scope of the other one is. Both are of one scope exactly if no
entry of the standard table covers the one with the slash; and this is what it takes for a request to
be authenticated alike with both of them, and likewise for its failures to be recovered from alike. -/
theorem relative_path_scope {path : String} (hrelative : Path.begins "/" path = false) :
    let rooted := "/" ++ path
    (∀ (request : Request) (configured : String),
      (request.withPath rooted).address configured =
        (request.withPath path).address configured) ∧
    RouteTable.standard.classify path = .primary ∧
    List.TFAE [
      RouteTable.standard.classify rooted = RouteTable.standard.classify path,
      ∀ r ∈ RouteTable.standard.routes, ¬ Route.Covers r.1 (Path.cut rooted),
      AuthenticatedAlike .standard path rooted,
      RecoveredAlike .standard path rooted] := by
  intro rooted
  have hprimary := RouteTable.standard_classify_relative hrelative
  refine ⟨fun request configured => ?_, hprimary, ?_⟩
  · rw [Request.address_eq_join, Request.address_eq_join]
    exact Address.join_rooted hrelative _
  tfae_have 1 ↔ 2 := by
    rw [hprimary]
    exact RouteTable.standard_classify_eq_primary_iff
  tfae_have 1 → 3 := authenticatedAlike_of_classify_eq hrelative
  tfae_have 3 → 1 := classify_eq_of_authenticatedAlike hrelative
  tfae_have 1 → 4 := recoveredAlike_of_classify_eq hrelative
  tfae_have 4 → 1 := classify_eq_of_recoveredAlike hrelative
  tfae_finish

/-- The services are guarded by the session, with the slash and without it. -/
theorem relative_path_scope_services :
    let path := "api/v1/docker/services?all=1"
    Path.begins "/" path = false ∧ AuthenticatedAlike .standard path ("/" ++ path) ∧
      RecoveredAlike .standard path ("/" ++ path) := by
  intro path
  have hrelative : Path.begins "/" path = false := by decide
  obtain ⟨-, hprimary, halike⟩ := relative_path_scope hrelative
  have hscope : RouteTable.standard.classify ("/" ++ path) = RouteTable.standard.classify path := by
    rw [hprimary, RouteTable.standard_eq]
    decide
  exact ⟨hrelative, (halike.out 0 2).mp hscope, (halike.out 0 3).mp hscope⟩

/-- A request to sign in, at a path. -/
def signInAt (path : String) : Request := { method := .post, path := path }

/-- Without the slash a request to sign in goes to the same address, but is guarded by the session:
it is sent with the access token, and when it is rejected the session is renewed. -/
theorem relative_signIn_guarded :
    let path := "api/v1/user/sign/in"
    let rooted := "/" ++ path
    let relativeSent := (authenticate .standard accessToken (signInAt path)).2
    let rootedSent := (authenticate .standard accessToken (signInAt rooted)).2
    let rejection : Response := { status := .unauthorized, body := "" }
    Path.begins "/" path = false ∧
      (signInAt rooted).address "http://127.0.0.1:6001" =
        (signInAt path).address "http://127.0.0.1:6001" ∧
      RouteTable.standard.classify path = .primary ∧
      RouteTable.standard.classify rooted = .unscoped ∧
      relativeSent.headers.authorization = some "Bearer A" ∧
      rootedSent.headers.authorization = none ∧
      (FailureContext.of relativeSent .primary rejection (some "A") (some "R")).decide =
        .recover ∧
      (FailureContext.of rootedSent .unscoped rejection (some "A") (some "R")).decide =
        .propagate := by
  intro path rooted relativeSent rootedSent rejection
  have hrelative : Path.begins "/" path = false := by decide
  have hprimary : RouteTable.standard.classify (signInAt path).path = .primary :=
    RouteTable.standard_classify_relative hrelative
  have hunscoped : RouteTable.standard.classify (signInAt rooted).path = .unscoped :=
    RouteTable.standard_classify_signIn
  have hrelativeSent : relativeSent =
      { signInAt path with headers := { authorization := some "Bearer A" } } := by
    have hauth := @authenticate_eq Unit .standard accessToken (signInAt path) rfl
    rw [hprimary] at hauth
    exact congrArg Prod.snd hauth
  have hrootedSent : rootedSent = signInAt rooted := by
    have hauth := @authenticate_eq Unit .standard accessToken (signInAt rooted) rfl
    rw [hunscoped] at hauth
    exact congrArg Prod.snd hauth
  rw [hrelativeSent, hrootedSent]
  rw [Request.address_eq_join, Request.address_eq_join]
  exact ⟨hrelative, Address.join_rooted hrelative _, hprimary, hunscoped, rfl, rfl, by decide,
    by decide⟩

end AdminConsole
