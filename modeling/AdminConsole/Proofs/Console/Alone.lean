import AdminConsole.Proofs.Console.SparedSession
import AdminConsole.Proofs.Console.Writes

/-!
# A caller that is alone

An operation that is carried out with nobody else around asks a server for its answers. Where asking
changes nothing, what comes of it is a plain function of the answers (`run_perform`), and the
console afterwards is one that a run leads to (`exists_run_of_perform`), so that what every write
keeps is kept by the whole operation.

A public request is sent once, without credentials, and changes nothing: its answer is what comes of
it, a status that is no success as the error it means (`perform_public`). So the outcome of signing
in is computed in full (`outcome_perform_login`).
-/

namespace AdminConsole

open AdminConsole.Time

/-- No failure of a public request is a matter of the session, unless it is the renewal or was sent
before. -/
theorem FailureContext.decide_public {request : Request}
    (hroute : request.route ≠ Endpoint.renewal) (hfirst : request.retried = false)
    (response : Response) (access refresh : Option String) :
    (FailureContext.of request .unscoped response access refresh).decide = .propagate := by
  have htarget : (request.route == Endpoint.renewal) = false := beq_eq_false_iff_ne.mpr hroute
  simp only [FailureContext.of, FailureContext.decide, htarget, hfirst, Bool.or_self,
    Bool.false_eq_true, if_false, ite_self]

namespace Console

variable {β : Type} [Backend β] {now : Moment} {caller : Nat}

/-! ### Asking changes nothing -/

section Asking

variable {σ : Type} {send : Request → StateM σ (Except ApiError Response)}
  {server : Request → Except ApiError Response} {s : σ}

theorem run_serve (hsend : ∀ request, (send request).run s = (server request, s)) (limit : Nat)
    (c : Console β) :
    (serve now send caller limit c).run s = (serve (m := Id) now server caller limit c, s) := by
  induction limit generalizing c with
  | zero => rfl
  | succ limit ih =>
    simp only [serve]
    split
    · rfl
    · simp only [StateT.run_bind, hsend]
      exact ih _
    · split
      · simp only [StateT.run_bind, hsend]
        exact ih _
      · exact ih _
    · split
      · simp only [StateT.run_bind, hsend]
        exact ih _
      · exact ih _
    · rfl

/-- **Asking.** An operation of a caller that is alone changes nothing but the console, if sending
requests changes nothing. -/
theorem run_perform (hsend : ∀ request, (send request).run s = (server request, s))
    (op : Operation) (c : Console β) :
    (c.perform now send op).run s = (c.perform (m := Id) now server op, s) :=
  run_serve hsend serveLimit _

end Asking

/-! ### Operations are runs -/

/-- What comes in a run after what came in a run comes in a run. -/
theorem exists_run_trans {c d e : Console β} (hd : ∃ t, d = c.run t) (he : ∃ t, e = d.run t) :
    ∃ t, e = c.run t := by
  obtain ⟨s, rfl⟩ := hd
  obtain ⟨t, rfl⟩ := he
  exact ⟨s ++ t, (run_append c s t).symm⟩

section Runs

variable (server : Request → Except ApiError Response)

theorem exists_run_of_serve (limit : Nat) (c : Console β) :
    ∃ t, (serve (m := Id) now server caller limit c).2 = c.run t := by
  have hanswer (result : Except ApiError Response) (c : Console β) :
      ∃ t, c.answer caller result = c.run t := ⟨[(now, .answer caller result)], rfl⟩
  have hgoOn (id : CycleId) (result : Except ApiError Response) (c : Console β) :
      ∃ t, c.goOn id (.answered (Renewal.tokens result)) = c.run t :=
    ⟨[(now, .answerCycle id result)], rfl⟩
  have hcycle (id : CycleId) (c : Console β) : ∃ t, c.stretchCycle now id = c.run t :=
    exists_run_of_stretchStep now (.advanceCycle id) c
  induction limit generalizing c with
  | zero => exact ⟨[], rfl⟩
  | succ limit ih =>
    have hfirst : ∃ t, c.stretch now caller = c.run t :=
      exists_run_of_stretchStep now (.advance caller) c
    simp only [serve]
    split
    · exact hfirst
    · exact exists_run_trans hfirst (exists_run_trans (hanswer _ _) (ih _))
    · rename_i id _
      refine exists_run_trans hfirst (exists_run_trans (hcycle id _) ?_)
      split
      · exact exists_run_trans (hgoOn _ _ _) (exists_run_trans (hcycle _ _) (ih _))
      · exact ih _
    · rename_i id _
      refine exists_run_trans hfirst (exists_run_trans (hcycle id _) ?_)
      split
      · exact exists_run_trans (hgoOn _ _ _) (exists_run_trans (hcycle _ _) (ih _))
      · exact ih _
    · exact hfirst

/-- **Operations.** What an operation of a caller that is alone leads to, a run leads to. -/
theorem exists_run_of_perform (op : Operation) (c : Console β) :
    ∃ t, (c.perform (m := Id) now server op).2 = c.run t :=
  exists_run_trans ⟨[(now, .start op)], rfl⟩ (exists_run_of_serve server serveLimit _)

end Runs

/-! ### Public requests -/

/-- What a request for which no credential is needed comes to: an answer that is no success is an
error. -/
def publicOutcome : Except ApiError Response → Except ApiError Response
  | .error e => .error e
  | .ok response =>
    if response.status.isSuccess then .ok response else .error (.ofResponse response)

theorem publicOutcome_eq_ok_iff {result : Except ApiError Response} {response : Response} :
    publicOutcome result = .ok response ↔
      result = .ok response ∧ response.status.isSuccess = true := by
  cases result with
  | error e =>
    constructor
    · rintro ⟨⟩
    · rintro ⟨⟨⟩, -⟩
  | ok told =>
    simp only [publicOutcome]
    split
    · next hsuccess =>
      constructor
      · rintro ⟨⟩
        exact ⟨rfl, hsuccess⟩
      · exact And.left
    · next hfailure =>
      constructor
      · rintro ⟨⟩
      · rintro ⟨⟨⟩, hsuccess⟩
        exact absurd hsuccess hfailure

section Public

variable {goal : Goal} {request : Request}

/-- The rest of a public request once it is answered. -/
theorem glide_public_answered (goal : Goal)
    (hpropagates : ∀ response access refresh,
      (FailureContext.of request .unscoped response access refresh).decide = .propagate)
    (now : Moment) (caller : Nat) (result : Except ApiError Response) (c : Console β) :
    ∃ n, n ≤ 1 ∧ ∀ limit,
      glide now caller (n + limit)
          (.exchange goal ((Exchange.inFlight request .unscoped).answer result)) c =
        glide now caller limit (.exchange goal (.finished (publicOutcome result))) c := by
  cases result with
  | error e => exact ⟨0, Nat.zero_le 1, fun limit => by rw [Nat.zero_add]; rfl⟩
  | ok response =>
    cases hsuccess : response.status.isSuccess with
    | true =>
      refine ⟨0, Nat.zero_le 1, fun limit => ?_⟩
      simp only [Exchange.answer, publicOutcome, hsuccess, if_true, Nat.zero_add]
    | false =>
      refine ⟨1, Nat.le_refl 1, fun limit => ?_⟩
      simp only [Exchange.answer, publicOutcome, hsuccess, Bool.false_eq_true, if_false]
      rw [Nat.add_comm, glide_succ rfl]
      simp only [stepActivity, stepExchange, hpropagates, Exchange.decided]

/-- **Public requests.** An operation of a caller that is alone begins with a public request. Then
the request is sent once, without credentials, and the caller goes on with its result. -/
theorem perform_public {op : Operation} {outcome : Outcome} {c d : Console β}
    (server : Request → Except ApiError Response)
    (hstart : Activity.start c.routes op = .exchange goal (.preparing request .unscoped []))
    (hpropagates : ∀ response access refresh,
      (FailureContext.of request .unscoped response access refresh).decide = .propagate)
    (hend : ∀ limit, glide now c.callers.length (limit + 3)
      (.exchange goal (.finished (publicOutcome (server request))))
      (c.transmit (.caller c.callers.length) request) = (.finished outcome, d)) :
    c.perform (m := Id) now server op =
      (some outcome, { d with callers := c.callers ++ [.finished outcome] }) := by
  let k := c.callers.length
  let result := server request
  -- the first stretch ends where the request has been sent
  let sent : Console β := { c.transmit (.caller k) request with
    callers := c.callers ++ [.exchange goal (.inFlight request .unscoped)] }
  have hset (x a : Activity) : (c.callers ++ [x]).set k a = c.callers ++ [a] := by simp [k]
  have hfirst : (c.step now (.start op)).stretch now k = sent := by
    have hstarted : c.step now (.start op) =
        { c with callers := c.callers ++ [.exchange goal (.preparing request .unscoped [])] } := by
      rw [← hstart]
      rfl
    have hthere : (c.step now (.start op)).callers[k]? =
        some (.exchange goal (.preparing request .unscoped [])) := by
      rw [hstarted]
      exact List.getElem?_concat_length
    have hlimit : stretchLimit = 63 + 1 := rfl
    rw [stretch_eq hthere, hlimit, glide_prepared, hstarted, hset]
    rfl
  have hwaits : sent.callers[k]? = some (.exchange goal (.inFlight request .unscoped)) :=
    List.getElem?_concat_length
  -- the second one where the caller is done
  have hanswer : sent.answer k result = { c.transmit (.caller k) request with
      callers := c.callers ++
        [.exchange goal ((Exchange.inFlight request .unscoped).answer result)] } := by
    have hcallers : sent.callers =
        c.callers ++ [.exchange goal (.inFlight request .unscoped)] := rfl
    simp only [answer, hwaits]
    rw [hcallers, hset]
  have hsecond : (sent.answer k result).stretch now k =
      { d with callers := c.callers ++ [.finished outcome] } := by
    have hthere : (sent.answer k result).callers[k]? =
        some (.exchange goal ((Exchange.inFlight request .unscoped).answer result)) := by
      rw [hanswer]
      exact List.getElem?_concat_length
    obtain ⟨n, hn, hglide⟩ :=
      glide_public_answered goal hpropagates now k result (sent.answer k result)
    have hlimit : stretchLimit = n + ((61 - n) + 3) := by
      have : stretchLimit = 64 := rfl
      omega
    rw [stretch_eq hthere, hlimit, hglide, hanswer, glide_withCallers, hend, hset]
  have hdone : ((sent.answer k result).stretch now k).callers[k]? = some (.finished outcome) := by
    rw [hsecond]
    exact List.getElem?_concat_length
  have hthere : ((c.step now (.start op)).stretch now k).callers[k]? =
      some (.exchange goal (.inFlight request .unscoped)) := by
    rw [hfirst]
    exact hwaits
  change serve (m := Id) now server k (15 + 1) (c.step now (.start op)) = _
  rw [serve_of_inFlight hthere, hfirst]
  change serve (m := Id) now server k (14 + 1) (sent.answer k result) = _
  rw [serve_of_finished hdone, hsecond]
  rfl

end Public

/-! ### Signing in -/

/-- The console after signing in has come to a result. -/
def signedInWith (now : Moment) (c : Console β) : Except ApiError TokenPair → Console β
  | .ok pair =>
    { c with store := c.store.setSession now pair, redirector := c.redirector.rearm }
  | .error _ => c

/-- The rest of a sign-in once its request is over. -/
theorem glide_signedIn (now : Moment) (caller limit : Nat) (result : Except ApiError Response)
    (c : Console β) :
    glide now caller (limit + 3) (.exchange .signIn (.finished result)) c =
      (.finished (.signedIn (Identity.signedIn result)),
        c.signedInWith now (Identity.signedIn result)) := by
  rw [glide_succ rfl]
  simp only [stepActivity, Goal.next]
  cases Identity.signedIn result with
  | error e => rw [glide_finished]; rfl
  | ok pair =>
    rw [glide_succ rfl, glide_succ rfl, stepActivity, stepActivity, glide_finished]
    rfl

/-- **Signing in.** Where signing in is public, one request without credentials is sent, and its
answer decides what the caller gets and what becomes of the console. -/
theorem perform_login (now : Moment) (server : Request → Except ApiError Response) {c : Console β}
    (hpublic : c.routes.classify Endpoint.signIn = .unscoped) (email password : String) :
    let request := Identity.signInRequest email password
    let result := Identity.signedIn (publicOutcome (server request))
    c.perform (m := Id) now server (.login email password) =
      (some (.signedIn result),
        { (c.transmit (.caller c.callers.length) request).signedInWith now result with
          callers := c.callers ++ [.finished (.signedIn result)] }) := by
  intro request result
  have hscope : c.routes.classify request.path = .unscoped := hpublic
  have hstart : Exchange.start c.routes request = .preparing request .unscoped [] := by
    simp only [Exchange.start, hscope]
    rfl
  have hroute : request.route ≠ Endpoint.renewal := by
    change Path.cut Endpoint.signIn ≠ Endpoint.renewal
    decide
  exact perform_public server (congrArg (Activity.exchange .signIn) hstart)
    (FailureContext.decide_public hroute rfl) fun limit => glide_signedIn now _ limit _ _

theorem outcome_perform_login (server : Request → Except ApiError Response) {c : Console β}
    (hpublic : c.routes.classify Endpoint.signIn = .unscoped) (email password : String) :
    (c.perform (m := Id) now server (.login email password)).1 =
      some (.signedIn (Identity.signedIn
        (publicOutcome (server (Identity.signInRequest email password))))) :=
  congrArg Prod.fst (perform_login now server hpublic email password)

end Console

end AdminConsole
