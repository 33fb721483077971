import AdminConsole.Proofs.Console.Alone
import AdminConsole.Proofs.Route.Standard

/-!
# Signing in, to the instance and to its tunnel server

Both are one public request, so no credential goes along and no failure of it is a matter of the
session (`Console.perform_public`). They differ in what is made of a success.

* **Signing in** takes an answer only if it issues an access token that is not blank
  (`Identity.Grants`). Then the session is replaced and the redirector armed; otherwise nothing is
  changed (`Console.login_all_or_nothing`).
* **Signing in to the tunnel server** takes every answer that has a token in it
  (`Identity.HandsOut`), also a blank one. What is kept is what a setter makes of the token, and a
  setter takes a blank text for none. So such a success deletes the token that was there
  (`Console.tunnel_login_keeps`, `Console.blank_tunnel_token_forgets`).
-/

namespace AdminConsole

open AdminConsole.Json AdminConsole.Text AdminConsole.Time

/-! ### What the answers say -/

namespace Identity

/-- A body issues tokens: it is a record whose field `tokens` is a record with an access token. A
refresh token that is missing counts as an empty one. -/
def Issues (body access refresh : String) : Prop :=
  ∃ outer inner, decodeBody? (Tree.fields? ["tokens"]) body = some outer ∧
    outer.required "tokens" (Tree.fields? ["access", "refresh"]) = some inner ∧
    inner.required "access" Tree.asString? = some access ∧
    inner.orElse "refresh" Tree.asString? "" = some refresh

/-- An answer grants a session: it is a success and issues an access token that is not blank. A
refresh token that is blank is none. -/
def Grants (answer : Except ApiError Response) (pair : TokenPair) : Prop :=
  ∃ response access refresh, answer = .ok response ∧ response.status.isSuccess = true ∧
    Issues response.body access refresh ∧ isBlank access = false ∧
    pair = ⟨some access, nonBlank? refresh⟩

/-- An answer hands out a token of the tunnel server: it is a success and has the token as its
data. -/
def HandsOut (answer : Except ApiError Response) (token : String) : Prop :=
  ∃ response envelope, answer = .ok response ∧ response.status.isSuccess = true ∧
    decodeBody? (Envelope.ofTree? tunnelToken?) response.body = some envelope ∧
    envelope.data = some token

theorem decodeBody?_signInTokens? {body : String} {pair : TokenPair} :
    decodeBody? signInTokens? body = some pair ↔
      ∃ access refresh, Issues body access refresh ∧ pair = TokenPair.ofTexts access refresh := by
  simp only [decodeBody?, decode?, signInTokens?, Issues, Fields.required, Option.bind_eq_bind,
    Option.bind_eq_some_iff, Option.pure_def, Option.some.injEq]
  constructor
  · rintro ⟨t, ht, outer, houter, u, hu, inner, hinner, access, haccess, refresh, hrefresh, rfl⟩
    exact ⟨access, refresh, ⟨outer, inner, ⟨t, ht, houter⟩, ⟨u, hu, hinner⟩, haccess, hrefresh⟩,
      rfl⟩
  · rintro ⟨access, refresh, ⟨outer, inner, ⟨t, ht, houter⟩, ⟨u, hu, hinner⟩, haccess, hrefresh⟩,
      rfl⟩
    exact ⟨t, ht, outer, houter, u, hu, inner, hinner, access, haccess, refresh, hrefresh, rfl⟩

theorem bind_eq_ok_iff {ε α γ : Type} {x : Except ε α} {f : α → Except ε γ} {c : γ} :
    x >>= f = .ok c ↔ ∃ a, x = .ok a ∧ f a = .ok c := by
  cases x with
  | error e =>
    refine ⟨fun h => ?_, fun ⟨a, h, _⟩ => ?_⟩
    · cases h
    · cases h
  | ok a =>
    refine ⟨fun h => ⟨a, rfl, h⟩, fun ⟨b, hb, h⟩ => ?_⟩
    cases hb
    exact h

theorem decodeResponse_eq_ok_iff {α : Type} {read : Tree → Option α} {path : String}
    {response : Response} {a : α} :
    decodeResponse read path response = .ok a ↔ decodeBody? read response.body = some a := by
  unfold decodeResponse
  cases decodeBody? read response.body with
  | none => exact ⟨nofun, nofun⟩
  | some b => rw [Except.ok.injEq, Option.some.injEq]

/-- An answer is taken for a session if it is a success that issues an access token that is not
blank. -/
theorem signedIn_eq_ok_iff {response : Response} {pair : TokenPair} :
    signedIn (.ok response) = .ok pair ↔
      ∃ access refresh, Issues response.body access refresh ∧ isBlank access = false ∧
        pair = ⟨some access, nonBlank? refresh⟩ := by
  have hkept (access : String) (h : isBlank access = false) : nonBlank? access = some access :=
    nonBlank?_eq_some_iff.mpr ⟨rfl, h⟩
  constructor
  · intro h
    obtain ⟨_, ⟨⟩, h⟩ := bind_eq_ok_iff.mp h
    obtain ⟨taken, hdecoded, h⟩ := bind_eq_ok_iff.mp h
    obtain ⟨access, refresh, hissues, rfl⟩ :=
      decodeBody?_signInTokens?.mp (decodeResponse_eq_ok_iff.mp hdecoded)
    split at h <;> rename_i hthere
    · cases h
      obtain ⟨kept, hnonBlank⟩ := Option.isSome_iff_exists.mp hthere
      have hfilled : isBlank access = false := (nonBlank?_eq_some_iff.mp hnonBlank).2
      refine ⟨access, refresh, hissues, hfilled, ?_⟩
      rw [TokenPair.ofTexts, hkept access hfilled]
    · cases h
  · rintro ⟨access, refresh, hissues, hfilled, rfl⟩
    have hpair : TokenPair.ofTexts access refresh = ⟨some access, nonBlank? refresh⟩ := by
      rw [TokenPair.ofTexts, hkept access hfilled]
    have hdecoded : decodeResponse signInTokens? Endpoint.signIn response =
        .ok (TokenPair.ofTexts access refresh) :=
      decodeResponse_eq_ok_iff.mpr (decodeBody?_signInTokens?.mpr ⟨access, refresh, hissues, rfl⟩)
    refine bind_eq_ok_iff.mpr ⟨response, rfl, bind_eq_ok_iff.mpr ⟨_, hdecoded, ?_⟩⟩
    rw [hpair]
    rfl

/-- An answer is taken for a token of the tunnel server if it has one as its data. -/
theorem tunnelSignedIn_eq_ok_iff {response : Response} {token : String} :
    tunnelSignedIn (.ok response) = .ok token ↔
      ∃ envelope, decodeBody? (Envelope.ofTree? tunnelToken?) response.body = some envelope ∧
        envelope.data = some token := by
  constructor
  · intro h
    obtain ⟨_, ⟨⟩, h⟩ := bind_eq_ok_iff.mp h
    obtain ⟨envelope, hdecoded, h⟩ := bind_eq_ok_iff.mp h
    refine ⟨envelope, decodeResponse_eq_ok_iff.mp hdecoded, ?_⟩
    split at h <;> rename_i hdata
    · cases h
      exact hdata
    · cases h
  · rintro ⟨envelope, hdecoded, hdata⟩
    have hread : decodeResponse (Envelope.ofTree? tunnelToken?) Endpoint.tunnelLogin response =
        .ok envelope := decodeResponse_eq_ok_iff.mpr hdecoded
    refine bind_eq_ok_iff.mpr ⟨response, rfl, bind_eq_ok_iff.mpr ⟨envelope, hread, ?_⟩⟩
    rw [hdata]
    rfl

end Identity

namespace Console

variable {β : Type} [Backend β] {now : Moment} {c : Console β}

open Identity

/-- What is made of a success only, is made of the result of a public request exactly if the answer
is a success. -/
theorem eq_ok_publicOutcome_iff {α : Type} {f : Except ApiError Response → Except ApiError α}
    (herror : ∀ e, f (.error e) = .error e) {answer : Except ApiError Response} {a : α} :
    f (publicOutcome answer) = .ok a ↔
      ∃ response, answer = .ok response ∧ response.status.isSuccess = true ∧
        f (.ok response) = .ok a := by
  constructor
  · intro h
    cases hpublished : publicOutcome answer with
    | error e =>
      rw [hpublished, herror] at h
      cases h
    | ok response =>
      obtain ⟨hanswer, hsuccess⟩ := publicOutcome_eq_ok_iff.mp hpublished
      exact ⟨response, hanswer, hsuccess, hpublished ▸ h⟩
  · rintro ⟨response, hanswer, hsuccess, h⟩
    rw [publicOutcome_eq_ok_iff.mpr ⟨hanswer, hsuccess⟩]
    exact h

theorem signedIn_publicOutcome {answer : Except ApiError Response} {pair : TokenPair} :
    Identity.signedIn (publicOutcome answer) = .ok pair ↔ Grants answer pair := by
  rw [eq_ok_publicOutcome_iff fun _ => rfl]
  simp only [signedIn_eq_ok_iff, Grants, exists_and_left]

theorem tunnelSignedIn_publicOutcome {answer : Except ApiError Response} {token : String} :
    Identity.tunnelSignedIn (publicOutcome answer) = .ok token ↔ HandsOut answer token := by
  rw [eq_ok_publicOutcome_iff fun _ => rfl]
  simp only [tunnelSignedIn_eq_ok_iff, HandsOut, exists_and_left]

/-! ### Signing in to the instance -/

/-- **Signing in is all or nothing.** With the standard routes, whatever the state and whatever the
instance answers: a caller that signs in with nobody else around gets a session exactly if the
answer is a success that issues an access token which is not blank. Then this is the session, the
redirector is armed, and nothing else has changed, the tunnel tokens and the selected peer among
it. Otherwise the caller gets an error and nothing that is shared has changed. One request is sent,
and no credential is attached to it. -/
theorem login_all_or_nothing (hroutes : c.routes = .standard) (now : Moment)
    (server : Request → Except ApiError Response) (email password : String) :
    let request := signInRequest email password
    ∃ result d, c.perform (m := Id) now server (.login email password) =
        (some (.signedIn result), d) ∧
      (∀ pair, result = .ok pair ↔ Grants (server request) pair) ∧
      (∀ pair, result = .ok pair →
        d.store.session = pair ∧ d.redirector.isOnLogin = false ∧
        d.store.get .tunnel = c.store.get .tunnel ∧
        d.store.get .tunnelServer = c.store.get .tunnelServer ∧
        d.store.peer = c.store.peer ∧
        d = { c with
          store := c.store.setSession now pair, redirector := c.redirector.rearm
          callers := d.callers, log := d.log }) ∧
      (∀ e, result = .error e → d = { c with callers := d.callers, log := d.log }) ∧
      d.log = ⟨.caller c.callers.length, request⟩ :: c.log ∧ request.headers = {} := by
  intro request
  have hpublic : c.routes.classify Endpoint.signIn = .unscoped := by
    rw [hroutes]
    exact RouteTable.standard_classify_signIn
  have hperform := perform_login now server hpublic email password
  refine ⟨_, _, hperform, fun pair => signedIn_publicOutcome, ?_, ?_, ?_, rfl⟩
  · intro pair hpair
    rw [hpair]
    exact ⟨rfl, rfl, rfl, rfl, rfl, rfl⟩
  · intro e he
    rw [he]
    rfl
  · cases Identity.signedIn (publicOutcome (server (signInRequest email password))) <;> rfl

/-- The instance answers a sign-in over an old session with an access token and a blank refresh
token. -/
theorem login_all_or_nothing_replaced :
    let c : Console MemoryBackend :=
      { opened .standard (.inMemory ⟨some "A1", some "R1"⟩) with
        redirector := { loginPath := Endpoint.signIn, onLogin := some 0 } }
    let server : Request → Except ApiError Response := fun _ =>
      .ok ⟨default, "\x7b\"tokens\":\x7b\"access\":\"A2\",\"refresh\":\" \"\x7d\x7d"⟩
    c.redirector.isOnLogin = true ∧ ∃ d,
      c.perform (m := Id) default server (.login "ops" "pw") =
        (some (.signedIn (.ok ⟨some "A2", none⟩)), d) ∧
      d.store.session = ⟨some "A2", none⟩ ∧ d.redirector.isOnLogin = false ∧
      d.log.length = 1 := by
  intro c server
  obtain ⟨result, d, hperform, hgrants, hok, -, hlog, -⟩ :=
    login_all_or_nothing (c := c) rfl default server "ops" "pw"
  have hresult : result = .ok ⟨some "A2", none⟩ :=
    (hgrants _).mpr (signedIn_publicOutcome.mp rfl)
  obtain ⟨hsession, harmed, -⟩ := hok _ hresult
  refine ⟨rfl, d, ?_, hsession, harmed, ?_⟩
  · rw [hperform, hresult]
  · rw [hlog]
    rfl

/-! ### Signing in to the tunnel server -/

/-- The console after signing in to the tunnel server has come to a result. -/
def tunnelSignedInWith (now : Moment) (c : Console β) : Except ApiError String → Console β
  | .ok token => { c with store := c.store.set now .tunnelServer token }
  | .error _ => c

/-- The rest of a sign-in to the tunnel server once its request is over. -/
theorem glide_tunnelSignedIn (now : Moment) (caller limit : Nat)
    (result : Except ApiError Response) (c : Console β) :
    glide now caller (limit + 3) (.exchange .tunnelSignIn (.finished result)) c =
      (.finished (.tunnelSignedIn ((Identity.tunnelSignedIn result).map fun _ => ())),
        c.tunnelSignedInWith now (Identity.tunnelSignedIn result)) := by
  rw [glide_succ rfl]
  simp only [stepActivity, Goal.next]
  cases Identity.tunnelSignedIn result with
  | error e =>
    rw [glide_finished]
    rfl
  | ok token =>
    rw [glide_succ rfl, stepActivity, glide_finished]
    rfl

/-- Where signing in to the tunnel server is public, one request without credentials is sent, and a
token in its answer is set, whatever text it is. -/
theorem perform_tunnelLogin (now : Moment) (server : Request → Except ApiError Response)
    (hpublic : c.routes.classify Endpoint.tunnelLogin = .unscoped) (username password : String) :
    let request := tunnelLoginRequest username password
    let taken := Identity.tunnelSignedIn (publicOutcome (server request))
    let outcome := Outcome.tunnelSignedIn (taken.map fun _ => ())
    c.perform (m := Id) now server (.tunnelLogin username password) =
      (some outcome,
        { (c.transmit (.caller c.callers.length) request).tunnelSignedInWith now taken with
          callers := c.callers ++ [.finished outcome] }) := by
  intro request taken outcome
  have hscope : c.routes.classify request.path = .unscoped := hpublic
  have hstart : Exchange.start c.routes request = .preparing request .unscoped [] := by
    simp only [Exchange.start, hscope]
    rfl
  have hroute : request.route ≠ Endpoint.renewal := by
    change Path.cut Endpoint.tunnelLogin ≠ Endpoint.renewal
    decide
  exact perform_public server (congrArg (Activity.exchange .tunnelSignIn) hstart)
    (FailureContext.decide_public hroute rfl) fun limit => glide_tunnelSignedIn now _ limit _ _

/-- **What signing in to the tunnel server keeps.** With the standard routes, whatever the state and
whatever the instance answers: a caller that signs in to the tunnel server with nobody else around
succeeds exactly if the answer is a success that has a token as its data. Then the tunnel server's
token is this one if it is not blank, and if it is blank there is none any more, whichever was there
before; the other credentials are kept. Otherwise the caller gets an error, and nothing that is
shared has changed. One request is sent, and no credential is attached to it. -/
theorem tunnel_login_keeps (hroutes : c.routes = .standard) (now : Moment)
    (server : Request → Except ApiError Response) (username password : String) :
    let request := tunnelLoginRequest username password
    ∃ result d, c.perform (m := Id) now server (.tunnelLogin username password) =
        (some (.tunnelSignedIn result), d) ∧
      (result = .ok () ↔ ∃ token, HandsOut (server request) token) ∧
      (∀ token, HandsOut (server request) token →
        (isBlank token = false → d.store.get .tunnelServer = some token) ∧
        (isBlank token = true → d.store.get .tunnelServer = none) ∧
        (∀ key, key ≠ .tunnelServer → d.store.get key = c.store.get key) ∧
        d = { c with
          store := c.store.set now .tunnelServer token, callers := d.callers, log := d.log }) ∧
      (∀ e, result = .error e → d = { c with callers := d.callers, log := d.log }) ∧
      d.log = ⟨.caller c.callers.length, request⟩ :: c.log ∧ request.headers = {} := by
  intro request
  have hpublic : c.routes.classify Endpoint.tunnelLogin = .unscoped := by
    rw [hroutes]
    exact RouteTable.standard_classify_tunnelLogin
  have hperform := perform_tunnelLogin now server hpublic username password
  refine ⟨_, _, hperform, ?_, ?_, ?_, ?_, rfl⟩
  · cases htaken : Identity.tunnelSignedIn (publicOutcome (server request)) with
    | error e =>
      refine ⟨fun h => ?_, fun ⟨token, htoken⟩ => ?_⟩
      · cases h
      · rw [tunnelSignedIn_publicOutcome.mpr htoken] at htaken
        cases htaken
    | ok token => exact ⟨fun _ => ⟨token, tunnelSignedIn_publicOutcome.mp htaken⟩, fun _ => rfl⟩
  · intro token htoken
    have htaken : Identity.tunnelSignedIn (publicOutcome (server request)) = .ok token :=
      tunnelSignedIn_publicOutcome.mpr htoken
    rw [htaken]
    refine ⟨fun hfilled => ?_, fun hblank => ?_, fun key hkey => ?_, rfl⟩
    · exact nonBlank?_eq_some_iff.mpr ⟨rfl, hfilled⟩
    · exact nonBlank?_eq_none_iff.mpr hblank
    · cases key with
      | tunnelServer => exact absurd rfl hkey
      | _ => rfl
  · intro e he
    cases htaken : Identity.tunnelSignedIn (publicOutcome (server request)) with
    | error e => rfl
    | ok token =>
      rw [htaken] at he
      cases he
  · cases Identity.tunnelSignedIn (publicOutcome (server request)) <;> rfl

/-- A console that keeps a token of the tunnel server and nothing else. -/
def tunneled : Console MemoryBackend :=
  opened .standard { stored := { tunnelServerToken := some "S0" }, backend := ⟨none⟩ }

/-- An instance that answers everything with a token of the tunnel server. -/
def handingOut (token : String) : Request → Except ApiError Response := fun _ =>
  .ok ⟨default, "\x7b\"data\":\x7b\"token\":\"" ++ token ++ "\"\x7d\x7d"⟩

theorem tunnel_login_keeps_replaced :
    ∃ d, tunneled.perform (m := Id) default (handingOut "S1") (.tunnelLogin "ops" "pw") =
        (some (.tunnelSignedIn (.ok ())), d) ∧
      tunneled.store.get .tunnelServer = some "S0" ∧ d.store.get .tunnelServer = some "S1" := by
  obtain ⟨result, d, hperform, hok, hkeeps, -⟩ :=
    tunnel_login_keeps (c := tunneled) rfl default (handingOut "S1") "ops" "pw"
  have hanswer : HandsOut (handingOut "S1" (tunnelLoginRequest "ops" "pw")) "S1" :=
    tunnelSignedIn_publicOutcome.mp rfl
  have hresult : result = .ok () := hok.mpr ⟨"S1", hanswer⟩
  obtain ⟨hkept, -⟩ := hkeeps "S1" hanswer
  refine ⟨d, ?_, rfl, hkept (by decide)⟩
  rw [hperform, hresult]

/-- **A blank token is forgotten.** The instance hands out a blank token, the sign-in succeeds, and
afterwards there is no token of the tunnel server, though there was one before. -/
theorem blank_tunnel_token_forgets :
    let d := tunneled.perform (m := Id) default (handingOut " ") (.tunnelLogin "ops" "pw")
    HandsOut (handingOut " " (tunnelLoginRequest "ops" "pw")) " " ∧
      d.1 = some (.tunnelSignedIn (.ok ())) ∧
      tunneled.store.get .tunnelServer = some "S0" ∧ d.2.store.get .tunnelServer = none := by
  intro d
  have hpublic : tunneled.routes.classify Endpoint.tunnelLogin = .unscoped :=
    RouteTable.standard_classify_tunnelLogin
  have hperform := perform_tunnelLogin default (handingOut " ") hpublic "ops" "pw"
  have hforgotten : d.2.store.get .tunnelServer = none :=
    congrArg (fun result => result.2.store.get .tunnelServer) hperform
  exact ⟨tunnelSignedIn_publicOutcome.mp rfl, congrArg Prod.fst hperform, rfl, hforgotten⟩

end Console

end AdminConsole
