import AdminConsole.Proofs.Console.RenewalStages

/-!
# One renewal for everybody

A rejection can come back before a cycle is started, while it is under way, between its write to
the store and the moment it leaves the slot, or after that, and each time the caller takes another
way.
`shared_renewal` says that in every run one renewal serves all callers, however their steps are
interleaved with each other and with those of the cycle. `Underway` is the invariant: the cycle is
in some phase, and every caller at some stage.

What the callers ask for must not itself be a renewal. The standard table never counts one among
what the session guards; `not_servedAll_refused` is what happens under a table that does.
-/

namespace AdminConsole

open AdminConsole.Time

namespace Console

variable {β : Type} {g : Rotation} {server : Gatekeeper g.fresh} {c₀ c c' : Console β}

/-! ### Runs under way -/

/-- What happens while the callers from `first` on send their requests and nobody else does
anything: they are answered by the server, the renewal is granted, and nobody goes away. -/
def Allows (g : Rotation) (server : Gatekeeper g.fresh) (first : Nat) (c : Console β) :
    Event → Prop
  | .start op => ∃ request, op = .send request ∧ request.IsPrimary c.routes
  | .advance caller => first ≤ caller
  | .answer caller result =>
    first ≤ caller ∧ ∃ response, result = .ok response ∧ ∀ goal request scope,
      c.callers[caller]? = some (.exchange goal (.inFlight request scope)) →
      server.answers request response
  | .advanceCycle _ => True
  | .answerCycle _ result =>
    ∃ response, result = .ok response ∧ response.status.isSuccess = true ∧
      RenewedTokens.ofBody? response.body = some g.tokens
  | .cancel _ | .killCycle _ => False

theorem allows_answer {first caller : Nat} {goal : Goal} {scope : Scope} {response : Response}
    (request : Request) (hfirst : first ≤ caller)
    (hcaller : c.callers[caller]? = some (.exchange goal (.inFlight request scope)))
    (hanswer : server.answers request response) :
    Allows g server first c (.answer caller (.ok response)) := by
  refine ⟨hfirst, response, rfl, fun _ _ _ h => ?_⟩
  rw [hcaller] at h
  cases h
  exact hanswer

/-- A run that has come as far as `c` from `c₀`, where the session is renewed once for all callers
that came after `c₀`. -/
structure Underway (g : Rotation) (server : Gatekeeper g.fresh) (c₀ c : Console β) : Prop where
  flight : c.SingleFlight
  phase : Phase g c₀.cycles.length c
  routes : c.routes = c₀.routes
  redirector : c.redirector = c₀.redirector
  callers : c₀.callers.length ≤ c.callers.length
  unsent : c.Unsent
  stage : ∀ k a, c₀.callers.length ≤ k → c.callers[k]? = some a →
    Stage g server c₀.cycles.length c a (c.sentBy k)

/-- What a caller that stays where it is has to do with a step: nothing. -/
theorem Underway.congr (h : Underway g server c₀ c) (hflight : c'.SingleFlight)
    (hphase : Phase g c₀.cycles.length c') (hroutes : c'.routes = c.routes)
    (hredirector : c'.redirector = c.redirector)
    (hcycles : c.cycles.length ≤ c'.cycles.length)
    (hrenewed : c.store.session = g.after → c'.store.session = g.after)
    (hcallers : c.callers.length ≤ c'.callers.length)
    (hunsent : ∀ k, c'.callers.length ≤ k → c'.sentBy k = c.sentBy k)
    (hstage : ∀ k a, c₀.callers.length ≤ k → c'.callers[k]? = some a →
      (c.callers[k]? = some a ∧ c'.sentBy k = c.sentBy k) ∨
        Stage g server c₀.cycles.length c' a (c'.sentBy k)) :
    Underway g server c₀ c' where
  flight := hflight
  phase := hphase
  routes := hroutes.trans h.routes
  redirector := hredirector.trans h.redirector
  callers := Nat.le_trans h.callers hcallers
  unsent k hk := (hunsent k hk).trans (h.unsent k (Nat.le_trans hcallers hk))
  stage k a hk ha := by
    rcases hstage k a hk ha with ⟨hsame, hsent⟩ | hstage
    · rw [hsent]
      exact (h.stage k a hk hsame).mono (fun hlt => Nat.lt_of_lt_of_le hlt hcycles) hrenewed
    · exact hstage

/-- One caller goes on. -/
theorem Underway.set (h : Underway g server c₀ c) {k : Nat} {a' : Activity}
    (hk : k < c.callers.length) (hflight : c'.SingleFlight)
    (hphase : Phase g c₀.cycles.length c') (hroutes : c'.routes = c.routes)
    (hredirector : c'.redirector = c.redirector)
    (hcycles : c.cycles.length ≤ c'.cycles.length)
    (hsession : c'.store = c.store) (hcallers : c'.callers = c.callers.set k a')
    (hothers : ∀ j, j ≠ k → c'.sentBy j = c.sentBy j)
    (hstage : Stage g server c₀.cycles.length c' a' (c'.sentBy k)) :
    Underway g server c₀ c' := by
  have hlength : c'.callers.length = c.callers.length := by rw [hcallers, List.length_set]
  refine h.congr hflight hphase hroutes hredirector hcycles (hsession ▸ fun hrenewed => hrenewed)
    (Nat.le_of_eq hlength.symm) (fun j hj => hothers j ?_) fun j a hj ha => ?_
  · rintro rfl
    exact absurd hk (Nat.not_lt_of_le (hlength ▸ hj))
  · by_cases hjk : j = k
    · subst hjk
      rw [hcallers, List.getElem?_set_self hk, Option.some_inj] at ha
      subst ha
      exact Or.inr hstage
    · rw [hcallers, List.getElem?_set_ne (Ne.symm hjk)] at ha
      exact Or.inl ⟨ha, hothers j hjk⟩

/-- What is so once a renewal has served everybody who came after `c₀`: one renewal was sent, the
session is the new one, nobody was sent to the login page, and every caller has got the answer to a
request with the new token, which it sent at once or as the one replay of what was rejected. -/
structure ServedAll (g : Rotation) (server : Gatekeeper g.fresh) (c₀ c : Console β) : Prop where
  renewals : c.renewalsSent = c₀.renewalsSent + 1
  session : c.store.session = g.after
  redirector : c.redirector = c₀.redirector
  served : ∀ k, c₀.callers.length ≤ k → k < c.callers.length → ∃ response last,
    c.callers[k]? = some (.finished (.response (.ok response))) ∧
      g.Served (c.sentBy k) last ∧ server.answers last response

/-- A caller that is done has been served. -/
theorem Underway.served (h : Underway g server c₀ c) {k : Nat} {outcome : Outcome}
    (hk : c₀.callers.length ≤ k) (hover : c.callers[k]? = some (.finished outcome)) :
    c.store.session = g.after ∧ ∃ response last,
      c.callers[k]? = some (.finished (.response (.ok response))) ∧
        g.Served (c.sentBy k) last ∧ server.answers last response := by
  cases h.stage k _ hk hover with
  | done hserved hanswer hrenewed => exact ⟨hrenewed, _, _, hover, hserved, hanswer⟩

theorem Underway.servedAll (h : Underway g server c₀ c) (h₀ : c₀.SingleFlight)
    (hslot : c₀.pending = none) (hsome : c₀.callers.length < c.callers.length)
    (hover : ∀ k a, c₀.callers.length ≤ k → c.callers[k]? = some a → ∃ outcome,
      a = .finished outcome) : ServedAll g server c₀ c := by
  have hserved : ∀ k, c₀.callers.length ≤ k → k < c.callers.length →
      c.store.session = g.after ∧ ∃ response last,
        c.callers[k]? = some (.finished (.response (.ok response))) ∧
          g.Served (c.sentBy k) last ∧ server.answers last response := by
    intro k hk hlt
    have ha : c.callers[k]? = some c.callers[k] := List.getElem?_eq_getElem hlt
    obtain ⟨outcome, heq⟩ := hover k _ hk ha
    exact h.served hk (heq ▸ ha)
  -- one caller that was served is enough to know that the session was renewed
  have hafter : c.store.session = g.after := (hserved _ (Nat.le_refl _) hsome).1
  refine ⟨?_, hafter, h.redirector, fun k hk hlt => (hserved k hk hlt).2⟩
  rw [h.phase.renewalsSent_of_after h.flight hafter, h₀.renewalsSent_of_idle hslot]

variable [Backend β]

/-! ### Steps of a run -/

theorem Underway.start (h : Underway g server c₀ c) {request : Request}
    (hprimary : request.IsPrimary c.routes) (hroute : request.route ≠ Endpoint.renewal)
    (now : Moment) : Underway g server c₀ (c.step now (.start (.send request))) := by
  have hstart := hprimary.start_eq
  refine h.congr (h.flight.step now _) (h.phase.congr rfl rfl rfl) rfl rfl (Nat.le_refl _)
    (fun hrenewed => hrenewed) (by simp [step]) (fun _ _ => rfl) fun k a hk ha => ?_
  -- the callers that were there, the new one, and those that have not come yet
  rcases Nat.lt_trichotomy k c.callers.length with hlt | rfl | hgt
  · exact Or.inl ⟨(List.getElem?_append_left hlt).symm.trans ha, rfl⟩
  · have hnew : Activity.start c.routes (.send request) = a := by
      simpa [step] using ha
    have hnone : (c.step now (.start (.send request))).sentBy c.callers.length = [] :=
      h.unsent _ (Nat.le_refl _)
    rw [← hnew, hnone, hstart]
    exact Or.inr (.attaching ⟨hprimary.unsent, hroute⟩)
  · have hlast := (List.getElem?_eq_some_iff.mp ha).1
    simp only [step, List.length_append, List.length_singleton] at hlast
    omega

theorem Underway.advance (h : Underway g server c₀ c) {k : Nat} (hk : c₀.callers.length ≤ k)
    (now : Moment) : Underway g server c₀ (c.advance now k) := by
  cases ha : c.callers[k]? with
  | none => rw [advance_of_getElem?_none ha]; exact h
  | some a =>
    have hlt : k < c.callers.length := (List.getElem?_eq_some_iff.mp ha).1
    have hflight := h.flight.step now (.advance k)
    have hmove := (h.stage k a hk ha).move h.phase now k
    rw [step, advance_of_getElem? ha] at hflight
    rw [advance_of_getElem? ha]
    -- only what `Move` says of the step is needed from here on
    generalize c.stepActivity now k a = p at hflight hmove
    cases hmove with
    | alone hstage =>
      exact h.set hlt hflight (h.phase.congr rfl rfl rfl) rfl rfl (Nat.le_refl _) rfl rfl
        (fun _ _ => rfl) (hstage.congr rfl rfl)
    | @sends a' request hstage =>
      refine h.set hlt hflight (h.phase.congr rfl rfl rfl) rfl rfl (Nat.le_refl _) rfl rfl
        (fun j hj => sentBy_transmit_of_ne (by simpa using Ne.symm hj) request c) ?_
      have hsent : (c.transmit (.caller k) request).sentBy k = c.sentBy k ++ [request] :=
        sentBy_transmit_self k request c
      rw [← hsent] at hstage
      exact hstage.congr rfl rfl
    | @starts a' c' hidle hstart hsession hstage =>
      subst hstart
      refine h.set hlt hflight ?_ rfl rfl (by simp) rfl rfl (fun _ _ => rfl)
        (hstage.congr rfl rfl)
      exact .renewing (by simp [hidle]) hsession rfl (hidle ▸ List.getElem?_concat_length)
        (Or.inl rfl)

theorem Underway.answer (h : Underway g server c₀ c) {k : Nat} (hk : c₀.callers.length ≤ k)
    (now : Moment) {response : Response}
    (hanswer : ∀ goal request scope,
      c.callers[k]? = some (.exchange goal (.inFlight request scope)) →
      server.answers request response) : Underway g server c₀ (c.answer k (.ok response)) := by
  have hflight := h.flight.step now (.answer k (.ok response))
  rw [step] at hflight
  unfold Console.answer at hflight ⊢
  split
  case h_2 => exact h
  case h_1 goal x ha =>
    simp only [ha] at hflight
    have hlt : k < c.callers.length := (List.getElem?_eq_some_iff.mp ha).1
    have hstage := (h.stage k _ hk ha).answer fun request scope hx =>
      hanswer goal request scope (hx ▸ ha)
    exact h.set hlt hflight (h.phase.congr rfl rfl rfl) rfl rfl (Nat.le_refl _) rfl rfl
      (fun _ _ => rfl) (hstage.congr rfl rfl)

theorem Underway.advanceCycle (h : Underway g server c₀ c) (now : Moment) (id : CycleId) :
    Underway g server c₀ (c.advanceCycle now id) := by
  obtain ⟨hphase, hrenewed⟩ := h.phase.advanceCycle h.flight now id
  obtain ⟨hroutes, hredirector, hcallers⟩ := advanceCycle_frame now id c
  have hsent := fun k => sentBy_advanceCycle now id k c
  have hflight := h.flight.step now (.advanceCycle id)
  refine h.congr hflight hphase hroutes hredirector
    (Nat.le_of_eq (length_cycles_advanceCycle now id c).symm) hrenewed
    (Nat.le_of_eq (congrArg List.length hcallers).symm) (fun k _ => hsent k) fun k a _ ha => ?_
  rw [hcallers] at ha
  exact Or.inl ⟨ha, hsent k⟩

theorem Underway.answerCycle (h : Underway g server c₀ c) {response : Response}
    (hsuccess : response.status.isSuccess = true)
    (hbody : RenewedTokens.ofBody? response.body = some g.tokens) (now : Moment) (id : CycleId) :
    Underway g server c₀ (c.step now (.answerCycle id (.ok response))) := by
  have hflight := h.flight.step now (.answerCycle id (.ok response))
  have hphase := h.phase.goOn id
  rw [step, Rotation.tokens_of_granted hsuccess hbody] at hflight ⊢
  by_cases hid : ∃ refreshToken, c.cycles[id]? = some ⟨refreshToken, .inFlight⟩
  · obtain ⟨refreshToken, hid⟩ := hid
    rw [goOn_of_inFlight _ hid] at hflight hphase ⊢
    exact h.congr hflight hphase rfl rfl (Nat.le_of_eq List.length_set.symm)
      (fun hrenewed => hrenewed) (Nat.le_refl _) (fun _ _ => rfl) fun k a _ ha => Or.inl ⟨ha, rfl⟩
  · rw [goOn_of_not_inFlight _ (not_exists.mp hid)]
    exact h

/-- **Steps of a run.** Whatever the server, the callers and the cycle do, the run stays one in
which the session is renewed once. -/
theorem Underway.step (h : Underway g server c₀ c) {e : Event}
    (he : Allows g server c₀.callers.length c e)
    (hroute : c.routes = .standard ∨
      ∀ request, e = .start (.send request) → request.route ≠ Endpoint.renewal) (now : Moment) :
    Underway g server c₀ (c.step now e) := by
  cases e with
  | start op =>
    obtain ⟨request, rfl, hprimary⟩ := he
    refine h.start hprimary ?_ now
    rcases hroute with hstandard | hroute
    · rw [hstandard] at hprimary
      exact hprimary.route_ne_renewal
    · exact hroute request rfl
  | advance caller => exact h.advance he now
  | answer caller result =>
    obtain ⟨hcaller, response, rfl, hanswer⟩ := he
    exact h.answer hcaller now hanswer
  | advanceCycle id => exact h.advanceCycle now id
  | answerCycle id result =>
    obtain ⟨response, rfl, hsuccess, hbody⟩ := he
    exact h.answerCycle hsuccess hbody now id
  | cancel caller => exact he.elim
  | killCycle id => exact he.elim

/-! ### Whole runs -/

/-- **One renewal for everybody.** Let a console that has come to stand with no cycle under way
hold a session whose access token the server rejects. If any number of callers, at least one, send
requests of the session's own scope, in any interleaving of all their steps with those of the
server and the cycle, and none of the requests is sent to where sessions are renewed (which the
standard table rules out), then once all are done a single renewal has served all of them. -/
theorem shared_renewal (g : Rotation) (server : Gatekeeper g.fresh) {s : List (Moment × Event)}
    (hreachable : c₀.Reachable) (hslot : c₀.pending = none) (hsession : c₀.store.session = g.before)
    (hallows : Obeys (Allows g server c₀.callers.length) c₀ s)
    (hroutes : c₀.routes = .standard ∨ ∀ x ∈ s, ∀ request, x.2 = .start (.send request) →
      request.route ≠ Endpoint.renewal)
    (hsome : c₀.callers.length < (c₀.run s).callers.length)
    (hover : ∀ k a, c₀.callers.length ≤ k → (c₀.run s).callers[k]? = some a → ∃ outcome,
      a = .finished outcome) : ServedAll g server c₀ (c₀.run s) := by
  have hstart : Underway g server c₀ c₀ :=
    { flight := hreachable.singleFlight
      phase := .idle rfl hsession hslot
      routes := rfl
      redirector := rfl
      callers := Nat.le_refl _
      unsent := hreachable.unsent
      stage := fun k a hk ha => absurd (List.getElem?_eq_some_iff.mp ha).1 (Nat.not_lt_of_le hk) }
  have hroute : ∀ x ∈ s, c₀.routes = .standard ∨
      ∀ request, x.2 = .start (.send request) → request.route ≠ Endpoint.renewal := fun x hx =>
    hroutes.imp_right fun h => h x hx
  have hrun : Underway g server c₀ (c₀.run s) :=
    run_induction (P := Underway g server c₀)
      (fun c now e h he => h.step he.1 (h.routes ▸ he.2) now) hstart (hallows.and hroute)
  exact hrun.servedAll hreachable.singleFlight hslot hsome hover

/-! ### Two small runs -/

/-- A console over an expired session, which counts every path among what the session guards. -/
def expired : Console MemoryBackend := opened ⟨[]⟩ (.inMemory Rotation.expired.before)

/-- A request to where sessions are renewed. -/
def renewing : Request := { method := .post, path := Endpoint.renewal }

/-- Two callers with the old token: one starts the cycle, and the rejection of the other comes back
while the cycle is under way but is looked at when the slot is empty again. -/
def overlapping : List (Moment × Event) :=
  [ .start (.send .listing), .start (.send .listing), .advance 0, .advance 1, .advance 0,
    .advance 1, .answer 0 (.ok .expired), .advance 0, .advance 0, .advanceCycle 0,
    .answer 1 (.ok .expired), .advance 1, .answerCycle 0 (.ok Renewal.grant),
    .advanceCycle 0, .advanceCycle 0, .advance 1, .advance 1,
    .answer 1 (.ok ⟨default, "done"⟩), .advance 1, .advanceCycle 0, .advance 0, .advance 0,
    .answer 0 (.ok ⟨default, "done"⟩), .advance 0 ].map (default, ·)

/-- One caller whose request to the renewal path is rejected. -/
def refused : List (Moment × Event) :=
  [ .start (.send renewing), .advance 0, .advance 0, .answer 0 (.ok .expired),
    .advance 0, .advance 0, .advance 0, .advance 0, .advance 0, .advance 0 ].map (default, ·)

theorem shared_renewal_overlapping :
    ServedAll Rotation.expired (.strict "A2") expired (expired.run overlapping) := by
  have hgrant : RenewedTokens.ofBody? Renewal.grant.body = some Rotation.expired.tokens := rfl
  refine shared_renewal _ _ ⟨_, _, [], rfl⟩ rfl rfl ?_ (Or.inr ?_) (by decide) ?_
  · refine ⟨⟨_, rfl, rfl, rfl, rfl⟩, ⟨_, rfl, rfl, rfl, rfl⟩, Nat.zero_le _, Nat.zero_le _,
      Nat.zero_le _, Nat.zero_le _, ?_, Nat.zero_le _, Nat.zero_le _, trivial, ?_, Nat.zero_le _,
      ⟨_, rfl, rfl, hgrant⟩, trivial, trivial, Nat.zero_le _, Nat.zero_le _, ?_, Nat.zero_le _,
      trivial, Nat.zero_le _, Nat.zero_le _, ?_, Nat.zero_le _, trivial⟩
    · exact allows_answer (Request.listing.withAuthorization "Bearer A1") (Nat.zero_le _) rfl
        (if_neg (by decide)).symm
    · exact allows_answer (Request.listing.withAuthorization "Bearer A1") (Nat.zero_le _) rfl
        (if_neg (by decide)).symm
    · exact allows_answer { Request.listing.withAuthorization "Bearer A2" with retried := true }
        (Nat.zero_le _) rfl (if_pos (by decide)).symm
    · exact allows_answer { Request.listing.withAuthorization "Bearer A2" with retried := true }
        (Nat.zero_le _) rfl (if_pos (by decide)).symm
  · have hroute : Request.listing.route ≠ Endpoint.renewal := by decide
    simp [overlapping, hroute]
  · rintro (_ | _ | k) a _ ha
    · cases ha
      exact ⟨_, rfl⟩
    · cases ha
      exact ⟨_, rfl⟩
    · cases ha

/-- A route table may count the renewal path among what the session guards. A caller that sends a
request there is signed out by a rejection that would make any other caller renew the session. -/
theorem not_servedAll_refused :
    expired.Reachable ∧ expired.pending = none ∧
      expired.store.session = Rotation.expired.before ∧
      Obeys (Allows Rotation.expired (.strict "A2") 0) expired refused ∧
      (expired.run refused).callers.length = 1 ∧
      (∀ (k : Nat) (a : Activity), (expired.run refused).callers[k]? = some a →
        ∃ outcome, a = .finished outcome) ∧
      (expired.run refused).store.session = {} ∧
      ¬ ServedAll Rotation.expired (.strict "A2") expired (expired.run refused) := by
  refine ⟨⟨_, _, [], rfl⟩, rfl, rfl, ?_, rfl, ?_, rfl, fun h => absurd h.renewals (by decide)⟩
  · refine ⟨⟨_, rfl, rfl, rfl, rfl⟩, Nat.zero_le _, Nat.zero_le _, ?_, Nat.zero_le _,
      Nat.zero_le _, Nat.zero_le _, Nat.zero_le _, Nat.zero_le _, Nat.zero_le _, trivial⟩
    exact allows_answer (renewing.withAuthorization "Bearer A1") (Nat.zero_le _) rfl
      (if_neg (by decide)).symm
  · rintro (_ | k) a ha
    · cases ha
      exact ⟨_, rfl⟩
    · cases ha

end Console

end AdminConsole
