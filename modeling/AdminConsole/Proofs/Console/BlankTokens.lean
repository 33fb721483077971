import AdminConsole.Proofs.Console.Causes
import AdminConsole.Proofs.Console.Settlement
import AdminConsole.Proofs.Credentials.BlankTokens

/-!
# Blank tokens in the session's own requests

A console gives a token to a request of the session's own scope in two ways: it attaches the access
token of the store, or it sends the request again with the token that the store holds meanwhile or
that a cycle has told. What a cycle tells is never blank (`TellsNoBlank`), for an answer without an
access token brings nothing. So a blank token gets into such a request from the store only
(`Exchange.blank_of_stepsTo`), and the store has it from where `Store.Unchecked` says.
-/

namespace AdminConsole

open AdminConsole.Text AdminConsole.Time

/-! ### What cycles tell -/

/-- The access token that a cycle has got, as long as it has not come to nothing. -/
def CycleStage.token? : CycleStage → Option String
  | .answered (.ok tokens) => some tokens.access
  | .written (.ok token) | .released (.ok token) | .settled (.ok token) => some token
  | .ready | .inFlight | .answered (.error _) | .written (.error _) | .released (.error _)
  | .settled (.error _) | .dead => none

/-- The stage is not about a blank token. -/
def CycleStage.HasNoBlank (stage : CycleStage) : Prop :=
  ∀ token, stage.token? = some token → isBlank token = false

theorem CycleStage.HasNoBlank.of_none {stage : CycleStage} (h : stage.token? = none) :
    stage.HasNoBlank := by
  intro token htoken
  rw [h] at htoken
  cases htoken

/-- Tokens that an answer brings are not blank. -/
theorem CycleStage.hasNoBlank_answered (result : Except ApiError Response) :
    (CycleStage.answered (Renewal.tokens result)).HasNoBlank := by
  have hbrings := Renewal.brings_tokens result
  generalize Renewal.tokens result = brought at hbrings
  intro token htoken
  cases brought with
  | ok tokens =>
    obtain rfl : tokens.access = token := Option.some.inj htoken
    exact hbrings.isBlank_access
  | error failure => cases htoken

namespace Console

variable {β : Type} {c : Console β}

/-- No cycle is about a blank token. -/
def TellsNoBlank (c : Console β) : Prop := ∀ cycle ∈ c.cycles, cycle.stage.HasNoBlank

theorem TellsNoBlank.isBlank_outcome (h : c.TellsNoBlank) {id : CycleId} {token : String}
    (houtcome : c.outcome? id = some (.ok token)) : isBlank token = false := by
  obtain ⟨cycle, hid, htold⟩ := Option.bind_eq_some_iff.mp houtcome
  obtain ⟨used, stage⟩ := cycle
  have hcycle := h _ (List.mem_of_getElem? hid)
  cases stage with
  | settled outcome =>
    obtain rfl : outcome = .ok token := Option.some.inj htold
    exact hcycle token rfl
  | dead => cases htold
  | _ => cases htold

variable [Backend β]

/-- A step of a cycle brings no token. -/
theorem hasNoBlank_stepCycle {cycle : Cycle} (h : cycle.stage.HasNoBlank) (now : Moment)
    (id : CycleId) (c : Console β) : (c.stepCycle now id cycle).1.HasNoBlank := by
  obtain ⟨used, stage⟩ := cycle
  cases stage with
  | ready => exact .of_none rfl
  | inFlight => exact .of_none rfl
  | answered tokens =>
    cases tokens with
    | ok tokens =>
      simp only [stepCycle]
      cases (c.store.renew now used tokens.access tokens.refresh).1 with
      | true => exact h
      | false => exact .of_none rfl
    | error failure => exact .of_none rfl
  | written outcome => cases outcome <;> exact h
  | released outcome => cases outcome <;> exact h
  | settled outcome => exact h
  | dead => exact .of_none rfl

theorem TellsNoBlank.step (h : c.TellsNoBlank) (now : Moment) (e : Event) :
    (c.step now e).TellsNoBlank := by
  intro cycle hcycle
  obtain ⟨id, hid⟩ := List.mem_iff_getElem?.mp hcycle
  cases movedCycle_of_getElem? hid with
  | fresh refreshToken => exact .of_none rfl
  | stayed hbefore => exact h cycle (List.mem_of_getElem? hbefore)
  | stepped hbefore he => exact hasNoBlank_stepCycle (h _ (List.mem_of_getElem? hbefore)) now id c
  | answered result hbefore he => exact CycleStage.hasNoBlank_answered result
  | killed hbefore he => exact .of_none rfl

end Console

/-! ### What requests are given -/

/-- A credential that is there is attached, if the request goes on. -/
theorem Attachment.request_attach_bearer {β : Type} {store : Store β} {request : Request}
    {key : CredentialKey} {keys : List CredentialKey} {token : String}
    (hget : store.get key = some token)
    (hfailure : ((Attachment.bearer (key :: keys)).attach store request).failure = none) :
    ((Attachment.bearer (key :: keys)).attach store request).request =
      request.withAuthorization (HeaderValue.bearerScheme ++ token) := by
  simp only [attach, hget, withBearer, HeaderValue.ofBearer?_eq] at hfailure ⊢
  cases hvalid : HeaderValue.isValid token with
  | true => rfl
  | false =>
    rw [hvalid] at hfailure
    cases hfailure

namespace Exchange

/-- What is still to be attached to a request of the session's own scope is the access token. -/
def AttachesAccess : Exchange → Prop
  | .preparing _ .primary todo => ∀ a ∈ todo, ∃ keys, a = .bearer keys ∧ ∀ key ∈ keys, key = .access
  | _ => True

/-- A request of the session's own scope that may still be sent carries a token. -/
def PrimaryCarries (token : String) : Exchange → Prop
  | .preparing request scope _ | .inFlight request scope | .failed request scope _
  | .joining request scope _ | .waiting request scope _ _ | .reconsidering request scope _ =>
    scope = .primary ∧ request.Carries token
  | .droppingPeer _ | .clearing _ _ | .cleared _ _ | .redirecting _ _ _ | .navigating _
  | .finished _ => False

theorem attachesAccess_start (routes : RouteTable) (request : Request) :
    (start routes request).AttachesAccess := by
  rw [start]
  cases routes.classify request.path with
  | primary =>
    intro a ha
    simp only [Attachment.plan] at ha
    split at ha
    · cases ha
    · obtain rfl := List.mem_singleton.mp ha
      exact ⟨[.access], rfl, fun key => List.mem_singleton.mp⟩
  | _ => trivial

variable {token : String}

theorem AttachesAccess.answer {x : Exchange} (h : x.AttachesAccess)
    (result : Except ApiError Response) : (x.answer result).AttachesAccess := by
  cases x with
  | inFlight request scope =>
    cases result with
    | error e => trivial
    | ok response =>
      simp only [Exchange.answer]
      split <;> trivial
  | _ => exact h

/-- An answer gives no token to a request. -/
theorem primaryCarries_of_answer {x : Exchange} {result : Except ApiError Response}
    (h : (x.answer result).PrimaryCarries token) : x.PrimaryCarries token := by
  cases x with
  | inFlight request scope =>
    cases result with
    | error e => cases h
    | ok response =>
      simp only [Exchange.answer] at h
      split at h
      · cases h
      · exact h
  | _ => exact h

section Found

variable {β : Type} {c : Console β} {x : Exchange} {request : Request} {scope : Scope}

/-- A token that a request finds is the access token of the store, unless a cycle has told it. -/
theorem Finds.access_or_told (h : x.Finds c request scope token) :
    c.store.get .access = some token ∨ ∃ id, c.outcome? id = some (.ok token) := by
  cases h with
  | @stored response hdecision =>
    rw [decision] at hdecision
    obtain ⟨rfl, hstatus, hfirst⟩ : request.CallsForRenewal scope response :=
      FailureContext.callsForRenewal_of_sendsAgain (by rw [hdecision]; rfl)
    rw [FailureContext.decide_of_isRecoverable hfirst hstatus] at hdecision
    split at hdecision
    · rename_i held hreplaced
      cases hdecision
      exact .inl (replacement?_eq_some_iff.mp hreplaced).1
    · split at hdecision <;> cases hdecision
  | joined hjoined =>
    unfold Console.joinOrStart at hjoined
    split at hjoined
    · cases hjoined
    · dsimp only at hjoined
      split at hjoined
      · rename_i held hreplaced
        cases hjoined
        exact .inl (replacement?_eq_some_iff.mp hreplaced).1
      · split at hjoined <;> cases hjoined
  | told houtcome => exact .inr ⟨_, houtcome⟩

end Found

section Steps

variable {β : Type} [Backend β] {c : Console β} {x y : Exchange}

theorem AttachesAccess.stepsTo (h : x.AttachesAccess) (hstep : x.StepsTo c y) :
    y.AttachesAccess := by
  cases hstep with
  | attached request scope a rest hfailure =>
    cases scope with
    | primary =>
      intro b hb
      rcases List.mem_append.mp hb with hgoesOn | hrest
      · -- what goes on of an attachment tries the same keys but the first
        obtain ⟨keys, rfl, hkeys⟩ := h a List.mem_cons_self
        have hremains : ((Attachment.bearer keys).attach c.store request).remaining = some b :=
          Option.mem_toList.mp hgoesOn
        cases keys with
        | nil => cases hremains
        | cons key keys =>
          simp only [Attachment.attach] at hremains
          split at hremains
          · unfold Attachment.Progress.ofResult at hremains
            split at hremains <;> cases hremains
          · cases hremains
            exact ⟨keys, rfl, fun k hk => hkeys k (List.mem_cons_of_mem key hk)⟩
      · exact h b (List.mem_cons_of_mem a hrest)
    | _ => trivial
  | replayed hfinds hreplay =>
    rename_i scope token
    cases scope with
    | primary => exact fun a ha => absurd ha List.not_mem_nil
    | _ => trivial
  | _ => trivial

/-- **Where a blank token comes from.** A step gives a blank token to a request of the session's own
scope only if that is the access token of the store. -/
theorem blank_of_stepsTo (hcycles : c.TellsNoBlank) (hx : x.AttachesAccess) (hstep : x.StepsTo c y)
    (hblank : isBlank token = true) (hy : y.PrimaryCarries token) :
    x.PrimaryCarries token ∨ c.store.get .access = some token := by
  cases hstep with
  | attached request scope a rest hfailure =>
    obtain ⟨rfl, hcarries⟩ := hy
    obtain ⟨keys, rfl, hkeys⟩ := hx a List.mem_cons_self
    cases keys with
    | nil => exact .inl ⟨rfl, hcarries⟩
    | cons key keys =>
      obtain rfl := hkeys key List.mem_cons_self
      cases haccess : c.store.get .access with
      | none =>
        simp only [Attachment.attach, haccess] at hcarries
        exact .inl ⟨rfl, hcarries⟩
      | some access =>
        -- what is attached is the access token, and the request carries one token only
        rw [Attachment.request_attach_bearer haccess hfailure] at hcarries
        obtain rfl := hcarries.unique (Request.carries_withAuthorization request access)
        exact .inr rfl
  | replayed hfinds hreplay =>
    obtain ⟨rfl, hcarries⟩ := hy
    obtain rfl := hcarries.unique (Request.carries_of_replayWith? hreplay)
    rcases hfinds.access_or_told with haccess | ⟨id, htold⟩
    · exact .inr haccess
    · have hnot := hcycles.isBlank_outcome htold
      exact absurd (hblank.symm.trans hnot) (by decide)
  | sent | awaits | recovers | joins | refused | waits | failed | replaced => exact .inl hy
  | _ => cases hy

end Steps

end Exchange

/-! ### Where requests with a blank token come from -/

namespace Console

variable {β : Type} [Backend β] {c : Console β} {caller : Nat} {goal : Goal} {token : String}

/-- The callers' requests of the session's own scope get the access token and nothing else. -/
def AttachesAccess (c : Console β) : Prop :=
  ∀ (caller : Nat) (goal : Goal) (x : Exchange),
    c.callers[caller]? = some (.exchange goal x) → x.AttachesAccess

theorem AttachesAccess.step (h : c.AttachesAccess) (now : Moment) (e : Event) :
    (c.step now e).AttachesAccess := by
  intro caller goal y hy
  cases movedRequest_of_getElem? hy with
  | fresh request => exact Exchange.attachesAccess_start c.routes request
  | reported => trivial
  | stayed hx he => exact h caller goal y hx
  | @stepped x hx he =>
    exact (h caller goal x hx).stepsTo (Exchange.stepsTo_stepExchange now caller x c)
  | @answered x result hx he => exact (h caller goal x hx).answer result

theorem Reachable.attachesAccess (h : c.Reachable) : c.AttachesAccess := by
  obtain ⟨routes, store, s, rfl⟩ := h
  exact run_induction' (fun _ now e hd => hd.step now e) s (by simp [AttachesAccess, opened])

theorem Reachable.tellsNoBlank (h : c.Reachable) : c.TellsNoBlank := by
  obtain ⟨routes, store, s, rfl⟩ := h
  exact run_induction' (fun _ now e hd => hd.step now e) s nofun

/-- A step of a caller gives a blank token to a request of the session's own scope only if that is
the access token of the store. -/
theorem blank_of_stepActivity (h : c.Reachable) {a : Activity}
    (ha : c.callers[caller]? = some a) {now : Moment} {y : Exchange}
    (hy : (c.stepActivity now caller a).1 = .exchange goal y) (hblank : isBlank token = true)
    (hcarries : y.PrimaryCarries token) :
    (∃ x, a = .exchange goal x ∧ x.PrimaryCarries token) ∨
      c.store.get .access = some token := by
  cases a with
  | exchange goal' x =>
    by_cases hover : ∃ result, x = .finished result
    · -- a caller that is through with its request starts no other
      obtain ⟨result, rfl⟩ := hover
      have hpast := Activity.isPast_next goal' result
      have hnext : goal'.next result = .exchange goal y := hy
      rw [hnext] at hpast
      cases hpast
    · rw [stepActivity_exchange now caller goal' c (not_exists.mp hover)] at hy
      cases hy
      have hstep := Exchange.stepsTo_stepExchange now caller x c
      have hattaches := h.attachesAccess caller goal x ha
      rcases Exchange.blank_of_stepsTo h.tellsNoBlank hattaches hstep hblank hcarries with
        hbefore | haccess
      · exact .inl ⟨x, rfl, hbefore⟩
      · exact .inr haccess
  | leaving =>
    -- the request that signs out has no header to begin with
    simp only [stepActivity] at hy
    split at hy
    · cases hy
      cases hcarries.2
    · cases hy
  | joining sent =>
    simp only [stepActivity] at hy
    split at hy <;> cases hy
  | waiting id =>
    simp only [stepActivity] at hy
    split at hy <;> cases hy
  | redirecting request generation =>
    simp only [stepActivity] at hy
    split at hy <;> cases hy
  | _ => cases hy

/-- **Requests with a blank token.** A request of the session's own scope that carries a blank token
after an event was brought with it, or carried it before, or has just been given it, as the access
token of the store. -/
theorem blank_of_step (h : c.Reachable) {now : Moment} {e : Event} {y : Exchange}
    (hy : (c.step now e).callers[caller]? = some (.exchange goal y))
    (hblank : isBlank token = true) (hcarries : y.PrimaryCarries token) :
    (∃ op request, e = .start op ∧ op.request? = some request ∧ request.Carries token) ∨
      (∃ x, c.callers[caller]? = some (.exchange goal x) ∧ x.PrimaryCarries token) ∨
      c.store.get .access = some token := by
  rcases onward_of_getElem? hy with ⟨a, ha, hmove⟩ | ⟨op, he, hnew, hstart⟩
  · refine .inr ?_
    generalize hb : Activity.exchange goal y = b at hmove
    cases hmove with
    | stayed he hdeed => exact .inl ⟨y, hb ▸ ha, hcarries⟩
    | stepped he =>
      rcases blank_of_stepActivity h ha hb.symm hblank hcarries with ⟨x, rfl, hbefore⟩ | haccess
      · exact .inl ⟨x, ha, hbefore⟩
      · exact .inr haccess
    | @answered goal' x result he =>
      cases hb
      exact .inl ⟨x, ha, Exchange.primaryCarries_of_answer hcarries⟩
    | left he => cases hb
  · refine .inl ⟨op, ?_⟩
    cases op with
    | send request =>
      cases hstart
      exact ⟨request, he, rfl, hcarries.2⟩
    | recover request scope response =>
      cases hstart
      exact ⟨request, he, rfl, hcarries.2⟩
    | login email password =>
      cases hstart
      exact ⟨_, he, rfl, hcarries.2⟩
    | tunnelLogin username password =>
      cases hstart
      exact ⟨_, he, rfl, hcarries.2⟩
    | _ => cases hstart

/-! ### The main result -/

/-- **Blank credentials.** Let a store be opened on any backend and any operations follow.

A blank text is held for a key exactly if it stands there unchecked: it was there when the store was
opened, or came in a pair that replaced the session, and nothing has been put in its place since. So
none is held if none was there and none came in a pair. Whoever is signed in has an access token
that is not blank or stands there unchecked; and in a console over the store an event gives a blank
token to a request of the session's own scope, by attaching it or by sending the request again, only
if it is the access token and stands there unchecked. -/
theorem blank_credential_unchecked (b : β) (ops : List (Moment × StoreWrite)) :
    let first := Store.load b
    let s := first.applyAll ops
    (∀ key t, isBlank t = true →
      (s.get key = some t ↔ Store.Unchecked key t first ops)) ∧
    ((∀ key t, first.get key = some t → isBlank t = false) →
      (∀ now pair, (now, .setSession pair) ∈ ops → ∀ key t,
        (StoreWrite.setSession pair).puts key = some (some t) → isBlank t = false) →
      ∀ key t, s.get key = some t → isBlank t = false) ∧
    ∀ c : Console β, c.store = s →
      (c.isAuthenticated = true → ∃ t, s.get .access = some t ∧
        (isBlank t = false ∨ Store.Unchecked .access t first ops)) ∧
      (c.Reachable → ∀ (now : Moment) (e : Event) (caller : Nat) (goal : Goal) (y : Exchange)
        (t : String), (c.step now e).callers[caller]? = some (.exchange goal y) →
        y.PrimaryCarries t → isBlank t = true →
        (∃ op request, e = .start op ∧ op.request? = some request ∧ request.Carries t) ∨
        (∃ x, c.callers[caller]? = some (.exchange goal x) ∧ x.PrimaryCarries t) ∨
        Store.Unchecked .access t first ops) := by
  intro first s
  have hblank : ∀ key t, isBlank t = true →
      (s.get key = some t ↔ Store.Unchecked key t first ops) :=
    fun key t ht => Store.get_applyAll_blank_iff ht first ops
  refine ⟨hblank, ?_, ?_⟩
  · intro hopened hpairs key t hget
    refine eq_false_of_ne_true fun ht => ?_
    have hclean : isBlank t = false := by
      rcases ((hblank key t ht).mp hget).origin ht with hheld | ⟨now, pair, hmem, hputs⟩
      · exact hopened key t hheld
      · exact hpairs now pair hmem key t hputs
    exact absurd (ht.symm.trans hclean) (by decide)
  · intro c hc
    refine ⟨?_, ?_⟩
    · intro hsignedIn
      obtain ⟨t, haccess⟩ := Option.isSome_iff_exists.mp hsignedIn
      rw [hc] at haccess
      refine ⟨t, haccess, ?_⟩
      cases ht : isBlank t with
      | false => exact .inl rfl
      | true => exact .inr ((hblank .access t ht).mp haccess)
    · intro hreachable now e caller goal y t hy hcarries ht
      have hcauses := blank_of_step hreachable hy ht hcarries
      rw [hc, hblank .access t ht] at hcauses
      exact hcauses

/-- A pair of blank tokens replaces the session, and then the refresh token is set. The blank access
token is attached to the next request, and by that it stands unchecked; the blank refresh token is
gone. -/
theorem blank_credential_attached :
    let first := Store.load (⟨none⟩ : MemoryBackend)
    let ops : List (Moment × StoreWrite) :=
      [(default, .setSession ⟨some " ", some "\t"⟩), (default, .set .refresh "R1")]
    let c := (opened ⟨[]⟩ (first.applyAll ops)).step default (.start (.send .listing))
    (c.step default (.advance 0)).callers[0]? = some (.exchange .response
      (.preparing (Request.listing.withAuthorization "Bearer  ") .primary [])) ∧
    Store.Unchecked .access " " first ops ∧ ¬ Store.Unchecked .refresh "\t" first ops := by
  intro first ops c
  obtain ⟨hblank, -, hconsole⟩ := blank_credential_unchecked (⟨none⟩ : MemoryBackend) ops
  obtain ⟨-, hgiven⟩ := hconsole c rfl
  have hreachable : c.Reachable := ⟨_, _, [(default, .start (.send .listing))], rfl⟩
  have hbefore : c.callers[0]? = some (.exchange .response
      (.preparing .listing .primary [.bearer [.access]])) := rfl
  have hafter : (c.step default (.advance 0)).callers[0]? = some (.exchange .response
      (.preparing (Request.listing.withAuthorization "Bearer  ") .primary [])) := rfl
  refine ⟨hafter, ?_, ?_⟩
  · rcases hgiven hreachable default (.advance 0) 0 .response _ " " hafter ⟨rfl, rfl⟩ (by decide)
      with ⟨op, request, hstart, -⟩ | ⟨x, hx, hcarried⟩ | hunchecked
    · cases hstart
    · cases hbefore.symm.trans hx
      cases hcarried.2
    · exact hunchecked
  · intro hunchecked
    have hheld := (hblank .refresh "\t" (by decide)).mpr hunchecked
    exact absurd hheld (by decide)

/-- Nobody looks at a pair that replaces the session. With a blank access token in it somebody
counts as signed in, and the next request has a header without a token. -/
theorem blank_pair_taken :
    let c := (opened .standard (Store.load (⟨none⟩ : MemoryBackend))).stretchRun <|
      List.map (default, ·)
        [ .start (.write (.setSession ⟨some " ", some "R1"⟩)), .advance 0,
          .start (.send .listing), .advance 1 ]
    c.store.get .access = some " " ∧ isBlank " " = true ∧ c.isAuthenticated = true ∧
      c.routes.classify Request.listing.path = .primary ∧
      (c.sentBy 1).map (fun r => r.headers.authorization) = [some "Bearer  "] := by
  simp only [RouteTable.standard_eq]
  exact ⟨rfl, rfl, rfl, rfl, rfl⟩

end Console

end AdminConsole
