import AdminConsole.Proofs.PeerToken
import AdminConsole.Proofs.Route.Spelling
import AdminConsole.Settings
import Mathlib.Data.List.DropRight

/-!
# Base addresses

The slashes at the end of a base address do not count, wherever the address comes from. It is in the
settings, or a request brings its own, or it is that of the selected peer, which goes without them
from the start and is made part of a request before anything is sent. Each of these ways takes the
slashes off (`Address.base`), some take them off twice, and since nothing is left to take off the
second time (`Address.base_base`), all come to one URL.

A URL is the base address without the slashes, and the path behind it. So two base addresses that
differ without their slashes lead to different URLs for every path, and the accounts in the
keychain, which go by the address without slashes, tell instances apart exactly as the URLs do.
-/

namespace AdminConsole

open Address

/-! ### Slashes at the end -/

namespace Address

/-- So many slashes. -/
def slashes (n : Nat) : String := String.ofList (List.replicate n '/')

theorem toList_base (address : String) :
    (base address).toList = address.toList.rdropWhile (· == '/') := by
  rw [base, String.toList_ofList]
  rfl

theorem base_append_slashes (address : String) (n : Nat) :
    base (address ++ slashes n) = base address := by
  refine String.toList_injective ?_
  have hslashes : ∀ c ∈ (List.replicate n '/').reverse, (c == '/') = true := by
    intro c hc
    rw [List.eq_of_mem_replicate (List.mem_reverse.mp hc)]
    rfl
  rw [toList_base, toList_base, slashes, String.toList_append, String.toList_ofList,
    List.rdropWhile, List.reverse_append, List.dropWhile_append_of_pos hslashes, ← List.rdropWhile]

theorem base_base (address : String) : base (base address) = base address := by
  refine String.toList_injective ?_
  rw [toList_base, toList_base, List.rdropWhile_idempotent]

theorem join_eq (address path : String) :
    join address path = base address ++ if Path.begins "/" path then path else "/" ++ path := by
  rw [join, below]
  split
  · rfl
  · exact String.append_assoc

/-- Two addresses lead to one place for any path exactly if they differ in slashes at their ends
only. -/
theorem join_eq_join_iff {a b path : String} : join a path = join b path ↔ base a = base b := by
  rw [join_eq, join_eq]
  exact String.append_left_inj _

theorem join_congr {a b : String} (h : base a = base b) (path : String) :
    join a path = join b path :=
  join_eq_join_iff.mpr h

end Address

/-! ### Where requests go -/

/-- The request with an address of its own. -/
def Request.withBaseUrl (address : String) (request : Request) : Request :=
  { request with options := { request.options with baseUrl := some address } }

theorem Request.address_of_unaddressed {request : Request} (h : request.options.baseUrl = none)
    (configured : String) : request.address configured = join configured request.path := by
  rw [address_eq_join, h, Option.getD_none]

/-- A request is passed through to a peer, and goes out as `sent`: the peer is selected, the path is
one for it, and the caller has named no other address. -/
structure PassedThrough {β : Type} (routes : RouteTable) (store : Store β) (peer : Peer)
    (request sent : Request) : Prop where
  selected : store.peer = some peer
  attaches : request.options.bypassAuth = false
  scope : routes.classify request.path = .tunnelClientOrServer
  below : Path.begins Endpoint.proxy request.path = true
  unaddressed : request.options.baseUrl = none
  sent_eq : authenticate routes store request = (.ok (routes.classify request.path), sent)

namespace PassedThrough

variable {β : Type} {routes : RouteTable} {store : Store β} {peer : Peer} {request sent : Request}

/-- With the routes of an instance, the path alone says what is passed through. -/
theorem of_standard (hpeer : store.peer = some peer)
    (hattaches : request.options.bypassAuth = false)
    (hbelow : Path.begins Endpoint.proxy request.path = true)
    (hown : request.options.baseUrl = none)
    (hsent : authenticate .standard store request = (.ok .tunnelClientOrServer, sent)) :
    PassedThrough .standard store peer request sent where
  selected := hpeer
  attaches := hattaches
  scope := RouteTable.standard_classify_proxy hbelow
  below := hbelow
  unaddressed := hown
  sent_eq := by rw [hsent, RouteTable.standard_classify_proxy hbelow]

theorem address_eq (h : PassedThrough routes store peer request sent) (configured : String) :
    sent.address configured = join peer.baseUrl request.path := by
  have hauth := authenticate_eq routes store h.attaches
  dsimp only at hauth
  rw [h.sent_eq, h.scope] at hauth
  split at hauth
  · have hsent : sent = (store.supplyFor .tunnelClientOrServer request.path).fill request :=
      (Prod.mk.inj hauth).2
    have hpeer : (store.supplyFor .tunnelClientOrServer request.path).peer = some peer :=
      Store.peer_supplyFor_eq_some_iff.mpr ⟨⟨rfl, h.below⟩, h.selected⟩
    rw [hsent, Request.address_eq_join]
    simp only [Supply.fill, hpeer, h.unaddressed, Option.map_some, Option.none_or, Option.getD_some]
  · cases hauth

end PassedThrough

/-- **Slashes at the end of an address.** The URL of a request is one and the same whether the
address is configured, named by the caller, or that of the peer which the request is passed through
to, and with however many slashes behind it in each place. Two instances have one account in the
keychain exactly if the URLs below them are the same. -/
theorem trailing_slashes_immaterial {β : Type} :
    (∀ (address : String) (m n : Nat) (request : Request), request.options.baseUrl = none →
      let url := request.address (address ++ slashes n)
      request.address (address ++ slashes m) = url ∧
      (∀ configured, (request.withBaseUrl (address ++ slashes m)).address configured = url) ∧
      ∀ (routes : RouteTable) (store : Store β) (peer : Peer) (token : Option String)
        (sent : Request) (configured : String),
        peer = Peer.ofTexts (address ++ slashes m) token ∨ peer = ⟨address ++ slashes m, token⟩ →
        PassedThrough routes store peer request sent → sent.address configured = url) ∧
    ∀ s t : Settings, s.keyringAccount = t.keyringAccount ↔
      ∀ request : Request, request.options.baseUrl = none →
        request.address s.baseUrl = request.address t.baseUrl := by
  constructor
  · intro address m n request hown url
    have hslashes : base (address ++ slashes m) = base (address ++ slashes n) := by
      rw [base_append_slashes, base_append_slashes]
    have hurl : url = join (address ++ slashes n) request.path :=
      Request.address_of_unaddressed hown _
    refine ⟨?_, fun configured => ?_, ?_⟩
    · rw [hurl, Request.address_of_unaddressed hown]
      exact join_congr hslashes _
    · rw [hurl, Request.address_eq_join]
      exact join_congr hslashes _
    · intro routes store peer token sent configured hpeer hsent
      rw [hurl, hsent.address_eq]
      refine join_congr ?_ _
      obtain rfl | rfl := hpeer
      · exact (base_base _).trans hslashes
      · exact hslashes
  · intro s t
    constructor
    · intro haccount request hown
      rw [Request.address_of_unaddressed hown, Request.address_of_unaddressed hown]
      exact join_congr haccount _
    · intro hurls
      -- the URL of any one path will do
      exact join_eq_join_iff.mp (hurls { method := .get, path := "/" } rfl)

/-- An address with two slashes behind it, which the peer is selected by, and the same with one,
which is configured. -/
theorem trailing_slashes_immaterial_peered :
    let address := "https://peer.example.com"
    let sent := (authenticate .standard peered (passThrough none)).2
    (passThrough none).options.baseUrl = none ∧
      PassedThrough .standard peered (Peer.ofTexts (address ++ slashes 2) (some "P1"))
        (passThrough none) sent ∧
      sent.address "http://127.0.0.1:6001" = (passThrough none).address (address ++ slashes 1) ∧
      (passThrough none).address (address ++ slashes 1) =
        "https://peer.example.com/api/v1/tunnel/proxy/domains" := by
  intro address sent
  have hpeer : peered.peer = some (Peer.ofTexts (address ++ slashes 2) (some "P1")) := by decide
  have hbelow : Path.begins Endpoint.proxy (passThrough none).path = true := by
    rw [path_passThrough]
    decide
  have hauth : authenticate .standard peered (passThrough none) =
      (.ok .tunnelClientOrServer, sent) := by
    have htakes := (takesPeerToken_passThrough none).authenticate_eq
    exact htakes.trans (Prod.ext rfl (congrArg Prod.snd htakes).symm)
  have hsent := PassedThrough.of_standard hpeer rfl hbelow rfl hauth
  obtain ⟨-, -, hpassed⟩ :=
    trailing_slashes_immaterial.1 address 2 1 (passThrough none) rfl
  exact ⟨rfl, hsent, hpassed .standard peered _ (some "P1") sent _ (Or.inl rfl) hsent, by decide⟩

end AdminConsole
