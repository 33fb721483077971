import AdminConsole.Proofs.Console.Moves
import AdminConsole.Proofs.Console.Stretch
import AdminConsole.Proofs.Console.Writes
import AdminConsole.Proofs.Credentials.Operations
import AdminConsole.Proofs.Route.Standard
import Mathlib.Data.List.Induction

/-!
# Who drops the selected peer

A peer is selected until it is dropped, by hand, by signing out, or because a request was rejected.
The last is decided by the scope of the request and nothing else. A caller whose request was
rejected knows neither where the request was sent to nor which peer was selected then, so what it
drops is the peer that it finds (`peer_dropped_by_scope`).

`Exchange.Blames` carries the rejection from the event in which it happens to the step that drops
the peer. It is an invariant of single callers, kept along the run together with the events so far.
-/

namespace AdminConsole

open AdminConsole.Time

/-! ### Writes to the selected peer -/

/-- Only an operation about the peer changes it. -/
theorem Store.peer_apply {β : Type} [Backend β] {w : StoreWrite} (h : w.concernsPeer = false)
    (now : Moment) (s : Store β) : (s.apply now w).2.peer = s.peer := by
  cases w with
  | renew used access refresh =>
    simp only [apply, renew]
    split <;> rfl
  | clearIf used =>
    simp only [apply, clearIf]
    split <;> rfl
  | setPeer peer => cases h
  | clearPeer => cases h
  | _ => rfl

/-- No renewal is about the peer. -/
theorem Cycle.concernsPeer_of_write? {cycle : Cycle} {w : StoreWrite} (h : cycle.write? = some w) :
    w.concernsPeer = false := by
  obtain ⟨used, stage⟩ := cycle
  cases stage with
  | answered tokens => cases tokens <;> (cases h; rfl)
  | _ => cases h

/-- The caller selects a peer, or drops it by hand or in order to sign out, in its next step. -/
def Activity.choosesPeer : Activity → Bool
  | .writing w => w.concernsPeer
  | .parting => true
  | _ => false

/-- The caller drops the peer in its next step because a request was rejected. -/
def Activity.isDroppingPeer : Activity → Bool
  | .exchange _ (.droppingPeer _) => true
  | _ => false

theorem Activity.choosesPeer_or_isDroppingPeer {a : Activity} {w : StoreWrite}
    (h : a.write? = some w) (hw : w.concernsPeer = true) :
    a.choosesPeer = true ∨ a.isDroppingPeer = true := by
  cases a with
  | exchange goal x =>
    cases x with
    | droppingPeer error => exact .inr rfl
    | clearing request said =>
      cases h
      cases hw
    | _ => cases h
  | writing v =>
    cases h
    exact .inl hw
  | parting => exact .inl rfl
  | installing pair | keeping token | closing =>
    cases h
    cases hw
  | _ => cases h

namespace Console

variable {β : Type} [Backend β] {c : Console β}

/-- The peer is changed by the step of a caller and by no other event. -/
theorem exists_advance_of_peer_ne {now : Moment} {e : Event}
    (h : (c.step now e).store.peer ≠ c.store.peer) :
    ∃ caller a, e = .advance caller ∧ c.callers[caller]? = some a ∧
      (a.choosesPeer = true ∨ a.isDroppingPeer = true) := by
  rw [store_step] at h
  cases hw : c.write? e with
  | none =>
    rw [hw] at h
    exact absurd rfl h
  | some w =>
    have hconcerns : w.concernsPeer = true := by
      refine eq_true_of_ne_false fun hnot => h ?_
      rw [hw]
      exact Store.peer_apply hnot now c.store
    cases e with
    | advance caller =>
      obtain ⟨a, ha, hwrite⟩ := Option.bind_eq_some_iff.mp hw
      exact ⟨caller, a, rfl, ha, Activity.choosesPeer_or_isDroppingPeer hwrite hconcerns⟩
    | advanceCycle id =>
      obtain ⟨cycle, -, hwrite⟩ := Option.bind_eq_some_iff.mp hw
      exact absurd (hconcerns.symm.trans (Cycle.concernsPeer_of_write? hwrite)) (by decide)
    | _ => cases hw

end Console

/-! ### Rejections in the past -/

namespace Console

variable {β : Type}

/-- In this event a request of a scope is rejected: it was sent and is answered with status 401, or
a caller comes with such an answer. -/
inductive RejectsIn (scope : Scope) (c : Console β) : Event → Nat → Request → Prop
  | answered {caller : Nat} {goal : Goal} {sent : Request} {response : Response}
      (hcaller : c.callers[caller]? = some (.exchange goal (.inFlight sent scope)))
      (hcode : response.status.code = 401) :
      RejectsIn scope c (.answer caller (.ok response)) caller sent
  | reported (sent : Request) {response : Response} (hcode : response.status.code = 401) :
      RejectsIn scope c (.start (.recover sent scope response)) c.callers.length sent

/-- At some point of the run the request was rejected. -/
def HasRejected [Backend β] (c : Console β) (s : List (Moment × Event)) (scope : Scope)
    (caller : Nat) (sent : Request) : Prop :=
  ∃ before now e after, s = before ++ (now, e) :: after ∧
    (c.run before).RejectsIn scope e caller sent

theorem RejectsIn.isStep_eq {c : Console β} {scope : Scope} {e : Event} {caller : Nat}
    {sent : Request} (h : c.RejectsIn scope e caller sent) : e.isStep = false := by
  cases h <;> rfl

section Past

variable [Backend β] {c : Console β} {s : List (Moment × Event)} {scope : Scope} {caller : Nat}
  {sent : Request}

theorem HasRejected.append (h : c.HasRejected s scope caller sent) (t : List (Moment × Event)) :
    c.HasRejected (s ++ t) scope caller sent := by
  obtain ⟨before, now, e, after, rfl, hrejects⟩ := h
  exact ⟨before, now, e, after ++ t, by simp only [List.append_assoc, List.cons_append], hrejects⟩

theorem RejectsIn.hasRejected {e : Event} (h : (c.run s).RejectsIn scope e caller sent)
    (now : Moment) : c.HasRejected (s ++ [(now, e)]) scope caller sent :=
  ⟨s, now, e, [], rfl, h⟩

/-- Who was rejected is about to look at the session. -/
theorem RejectsIn.exists_failed {e : Event} (h : c.RejectsIn scope e caller sent) (now : Moment) :
    ∃ goal response, response.status.code = 401 ∧
      (c.step now e).callers[caller]? = some (.exchange goal (.failed sent scope response)) := by
  cases h with
  | @answered caller goal sent response hcaller hcode =>
    refine ⟨goal, response, hcode, ?_⟩
    rw [step, answer_of_failure hcaller (Status.isSuccess_of_unauthorized hcode)]
    exact List.getElem?_set_self (List.getElem?_eq_some_iff.mp hcaller).1
  | @reported sent response hcode =>
    exact ⟨.response, response, hcode, List.getElem?_concat_length⟩

end Past

end Console

namespace Exchange

/-- As long as a request is under way that was rejected, the rejection is one of these; and so is
one of the scope of pass-through requests if the peer is to be dropped. -/
def Blames (rejected : Scope → Request → Prop) : Exchange → Prop
  | .failed sent scope response => response.status.code = 401 → rejected scope sent
  | .joining sent scope _ | .waiting sent scope _ _ | .reconsidering sent scope _ =>
    rejected scope sent
  | .droppingPeer _ => ∃ sent, rejected .tunnelClientOrServer sent
  | .preparing _ _ _ | .inFlight _ _ | .clearing _ _ | .cleared _ _ | .redirecting _ _ _
  | .navigating _ | .finished _ => True

variable {rejected : Scope → Request → Prop} {x y : Exchange}

theorem Blames.mono (h : x.Blames rejected) {rejected' : Scope → Request → Prop}
    (hmono : ∀ scope sent, rejected scope sent → rejected' scope sent) : x.Blames rejected' := by
  cases x with
  | failed sent scope response => exact fun hcode => hmono scope sent (h hcode)
  | joining sent scope response => exact hmono scope sent h
  | waiting sent scope response id => exact hmono scope sent h
  | reconsidering sent scope response => exact hmono scope sent h
  | droppingPeer error => exact h.imp (hmono .tunnelClientOrServer)
  | _ => trivial

theorem Blames.answer (h : x.Blames rejected) {result : Except ApiError Response}
    (hrejects : ∀ sent scope response, x = .inFlight sent scope → result = .ok response →
      response.status.code = 401 → rejected scope sent) : (x.answer result).Blames rejected := by
  cases x with
  | inFlight sent scope =>
    cases result with
    | error e => trivial
    | ok response =>
      simp only [Exchange.answer]
      split
      · trivial
      · exact hrejects sent scope response rfl rfl
  | _ => exact h

/-- The peer is to be dropped if a request was rejected, and if it is of this scope. -/
theorem decision_eq_invalidateContext_iff {β : Type} {c : Console β} {sent : Request}
    {scope : Scope} {response : Response} :
    decision c sent scope response = .invalidateContext ↔
      response.status.code = 401 ∧ scope = .tunnelClientOrServer := by
  constructor
  · intro hdecision
    have hdecides := FailureContext.decides sent scope response c.store.session.access
      c.store.session.refresh
    rw [← decision, hdecision] at hdecides
    cases hdecides with
    | peer hcode hscope => exact ⟨hcode, hscope⟩
    | again hd hcalls => cases hd
  · rintro ⟨hcode, rfl⟩
    simp only [decision, FailureContext.of, FailureContext.decide, hcode, ne_eq,
      not_true_eq_false, if_false]

/-- **Steps of a request.** Only a rejected request of the scope of pass-through requests is a
reason to drop the peer. -/
theorem Blames.stepsTo {β : Type} [Backend β] {c : Console β} (h : x.Blames rejected)
    (hstep : x.StepsTo c y) : y.Blames rejected := by
  cases hstep with
  | @leavesPeer sent scope response hdecision =>
    obtain ⟨hcode, rfl⟩ := decision_eq_invalidateContext_iff.mp hdecision
    exact ⟨sent, h hcode⟩
  | recovers hdecision => exact h (FailureContext.callsForRenewal_of_decide hdecision).status
  | joins | refused | waits | failed => exact h
  | replaced => exact fun _ => h
  | _ => trivial

end Exchange

namespace Console

variable {β : Type} [Backend β] {first c : Console β} {s : List (Moment × Event)}

/-- Who is busy with a rejection was rejected at some point of the run. -/
def Blames (first : Console β) (s : List (Moment × Event)) (c : Console β) : Prop :=
  ∀ (caller : Nat) (goal : Goal) (x : Exchange),
    c.callers[caller]? = some (.exchange goal x) →
      x.Blames fun scope sent => first.HasRejected s scope caller sent

theorem Blames.step (h : first.Blames s (first.run s)) (now : Moment) (e : Event) :
    first.Blames (s ++ [(now, e)]) ((first.run s).step now e) := by
  intro caller goal y hy
  have hlater : ∀ {x : Exchange}, (x.Blames fun scope sent =>
      first.HasRejected s scope caller sent) →
      x.Blames fun scope sent => first.HasRejected (s ++ [(now, e)]) scope caller sent :=
    fun hx => hx.mono fun scope sent hrejected => hrejected.append [(now, e)]
  cases movedRequest_of_getElem? hy with
  | fresh request => trivial
  | reported sent scope response he hnew =>
    intro hcode
    subst he hnew
    exact RejectsIn.hasRejected (.reported sent hcode) now
  | stayed hx he => exact hlater (h caller goal y hx)
  | @stepped x hx he =>
    exact (hlater (h caller goal x hx)).stepsTo (Exchange.stepsTo_stepExchange now caller x _)
  | @answered x result hx he =>
    refine (hlater (h caller goal x hx)).answer ?_
    intro sent scope response hinFlight hresult hcode
    subst he hinFlight hresult
    exact RejectsIn.hasRejected (.answered hx hcode) now

theorem blames_run (routes : RouteTable) (store : Store β) (s : List (Moment × Event)) :
    (opened routes store).Blames s ((opened routes store).run s) := by
  induction s using List.reverseRecOn with
  | nil => exact fun caller goal x hx => by cases hx
  | append_singleton s x ih =>
    rw [run_append_singleton]
    exact ih.step x.1 x.2

/-! ### What a rejection comes to -/

section Rejected

variable {caller : Nat} {goal : Goal} {sent : Request} {scope : Scope} {response : Response}

theorem isDroppingPeer_decided_iff {d : AuthDecision} :
    (Activity.exchange goal (.decided sent scope response d)).isDroppingPeer = true ↔
      d = .invalidateContext := by
  cases d with
  | invalidateContext => exact iff_of_true rfl rfl
  | replayWithCurrent token =>
    refine iff_of_false ?_ AuthDecision.noConfusion
    simp only [Exchange.decided, Exchange.replay]
    split <;> exact Bool.false_ne_true
  | _ => exact iff_of_false Bool.false_ne_true AuthDecision.noConfusion

/-- Whoever looks at the session leaves the peer alone, and then drops it or goes on with something
else, as the scope of the rejected request says. -/
theorem advance_failed (hcode : response.status.code = 401)
    (ha : c.callers[caller]? = some (.exchange goal (.failed sent scope response)))
    (now : Moment) :
    (c.advance now caller).store = c.store ∧
      ∃ x, (c.advance now caller).callers[caller]? = some (.exchange goal x) ∧
        ((Activity.exchange goal x).isDroppingPeer = true ↔ scope = .tunnelClientOrServer) := by
  refine ⟨?_, .decided sent scope response (Exchange.decision c sent scope response), ?_, ?_⟩
  · exact store_step_of_no_write (e := .advance caller) (by rw [write?, ha]; rfl) now
  · exact getElem?_callers_advance_self ha
  · rw [isDroppingPeer_decided_iff, Exchange.decision_eq_invalidateContext_iff]
    exact and_iff_right hcode

/-- What the next step of a caller makes of the peer, if it does not choose one itself. -/
theorem peer_advance {a : Activity} (ha : c.callers[caller]? = some a)
    (hchooses : a.choosesPeer = false) (now : Moment) :
    (c.advance now caller).store.peer = if a.isDroppingPeer then none else c.store.peer := by
  cases hdrops : a.isDroppingPeer with
  | true =>
    have hwrite : a.write? = some .clearPeer := by
      cases a with
      | exchange goal x =>
        cases x with
        | droppingPeer error => rfl
        | _ => cases hdrops
      | _ => cases hdrops
    have hstore := store_step now (.advance caller) c
    rw [write?, ha, Option.bind_some, hwrite] at hstore
    exact congrArg Store.peer hstore
  | false =>
    refine Decidable.byContradiction fun hne => ?_
    obtain ⟨k, b, he, hb, hchanges⟩ := exists_advance_of_peer_ne (e := .advance caller) hne
    obtain rfl := Event.advance.inj he
    obtain rfl := Option.some.inj (ha.symm.trans hb)
    rw [hchooses, hdrops] at hchanges
    exact hchanges.elim Bool.false_ne_true Bool.false_ne_true

end Rejected

/-- **The selected peer.** In every run the peer changes in the step of a caller who selects one or
drops it by hand or signs out, and otherwise only because it is dropped after a rejection: then a
request of that caller was rejected before whose scope is that of pass-through requests.

And whoever has a request rejected, wherever that was sent to, drops in the second step after the
rejection the peer that is selected then, whichever that is, if the request is of that scope; if it
is not, both steps leave the peer alone. Others may do anything between the steps. -/
theorem peer_dropped_by_scope (routes : RouteTable) (store : Store β)
    (s : List (Moment × Event)) :
    let first := opened routes store
    let c := first.run s
    (∀ now e, (c.step now e).store.peer ≠ c.store.peer →
      ∃ caller a, e = .advance caller ∧ c.callers[caller]? = some a ∧
        (a.choosesPeer = true ∨
          a.isDroppingPeer = true ∧ (c.step now e).store.peer = none ∧
            ∃ sent, first.HasRejected s .tunnelClientOrServer caller sent)) ∧
    ∀ now e scope caller sent, c.RejectsIn scope e caller sent →
      ∀ t₀ t₁ m₀ m₁, (∀ t ∈ [t₀, t₁], ∀ x ∈ t, x.2.sparesCaller caller = true) →
        let found := (c.step now e).run t₀
        let looked := found.advance m₀ caller
        let later := looked.run t₁
        (c.step now e).store.peer = c.store.peer ∧ looked.store.peer = found.store.peer ∧
          (later.advance m₁ caller).store.peer =
            if scope = .tunnelClientOrServer then none else later.store.peer := by
  intro first c
  refine ⟨fun now e hne => ?_, fun now e scope caller sent hrejects t₀ t₁ m₀ m₁ hspares => ?_⟩
  · obtain ⟨caller, a, rfl, ha, hchanges⟩ := exists_advance_of_peer_ne hne
    refine ⟨caller, a, rfl, ha, ?_⟩
    cases hchooses : a.choosesPeer with
    | true => exact .inl rfl
    | false =>
      have hdrops : a.isDroppingPeer = true := by
        rw [hchooses] at hchanges
        exact hchanges.resolve_left Bool.false_ne_true
      have hpeer := peer_advance ha hchooses now
      rw [hdrops] at hpeer
      refine .inr ⟨hdrops, hpeer, ?_⟩
      -- the rejection has come with the caller all the way
      cases a with
      | exchange goal x =>
        have hblames := blames_run routes store s caller goal x ha
        cases x with
        | droppingPeer error => exact hblames
        | _ => cases hdrops
      | _ => cases hdrops
  · intro found looked later
    obtain ⟨goal, response, hcode, hfailed⟩ := hrejects.exists_failed now
    have hfound : found.callers[caller]? = some (.exchange goal (.failed sent scope response)) :=
      getElem?_callers_run hfailed (hspares t₀ (by simp))
    obtain ⟨hstore, x, hlooked, hdrops⟩ := advance_failed hcode hfound m₀
    have hlater : later.callers[caller]? = some (.exchange goal x) :=
      getElem?_callers_run hlooked (hspares t₁ (by simp))
    refine ⟨?_, congrArg Store.peer hstore, ?_⟩
    · exact congrArg Store.peer
        (frame_step Console.store (fun _ _ => rfl) hrejects.isStep_eq now)
    · rw [peer_advance hlater rfl m₁]
      simp only [hdrops]

/-- A console with a session and a selected peer. -/
def chosen : Console MemoryBackend :=
  opened .standard
    { Store.inMemory ⟨some "A1", some "R1"⟩ with
      peer := some ⟨"https://peer.example.com", some "P1"⟩ }

/-- A request that stays on this instance. -/
def ownDomains : Request := { method := .get, path := "/api/v1/tunnel/domains" }

/-- A request that is passed through to the selected peer. -/
def peerDomains : Request := { method := .get, path := "/api/v1/tunnel/proxy/domains" }

/-- A request that goes to an address of its own. -/
def otherDomains : Request :=
  { peerDomains with options := { baseUrl := some "https://other.example.com" } }

/-- The tunnel server of this instance rejects a request, and the selected peer is dropped. -/
theorem peer_dropped_for_ownDomains :
    let sent := ownDomains.withAuthorization "Bearer A1"
    let s : List (Moment × Event) :=
      [(default, .start (.send ownDomains)), (default, .advance 0), (default, .advance 0)]
    let c := chosen.run s
    let rejected := c.step default (.answer 0 (.ok .expired))
    c.RejectsIn .tunnelClientOrServer (.answer 0 (.ok .expired)) 0 sent ∧
      rejected.store.peer = c.store.peer ∧
      ((rejected.advance default 0).advance default 0).store.peer = none := by
  intro sent s c rejected
  obtain ⟨-, hrejected⟩ := peer_dropped_by_scope .standard chosen.store s
  have hcaller : c.callers[0]? =
      some (.exchange .response (.inFlight sent .tunnelClientOrServer)) := by
    simp only [c, s, chosen, RouteTable.standard_eq]
    rfl
  have hrejects : c.RejectsIn .tunnelClientOrServer (.answer 0 (.ok .expired)) 0 sent :=
    .answered hcaller rfl
  obtain ⟨hkept, -, hdropped⟩ := hrejected default _ _ 0 sent hrejects [] [] default default
    (by simp)
  exact ⟨hrejects, hkept, hdropped⟩

/-- A selected peer is dropped that has rejected nothing: by a rejection of this instance's own
tunnel server, by one of a server that the caller has named, and by one of the peer that was
selected before. -/
theorem sparing_peer_dropped :
    let rejected (c : Console MemoryBackend) :=
      c.stretchRun [(default, .answer 0 (.ok .expired)), (default, .advance 0)]
    let own := chosen.stretchRun [(default, .start (.send ownDomains)), (default, .advance 0)]
    let other := chosen.stretchRun [(default, .start (.send otherDomains)), (default, .advance 0)]
    let replaced := chosen.stretchRun
      [ (default, .start (.send peerDomains)), (default, .advance 0),
        (default, .start (.write (.setPeer ⟨"https://next.example.com", none⟩))),
        (default, .advance 1) ]
    (own.Reachable ∧ (own.sentBy 0).map (fun r => r.options.baseUrl) = [none] ∧
      own.store.peer = some ⟨"https://peer.example.com", some "P1"⟩ ∧
      (rejected own).store.peer = none) ∧
    (other.Reachable ∧
      (other.sentBy 0).map (fun r => r.options.baseUrl) = [some "https://other.example.com"] ∧
      other.store.peer = some ⟨"https://peer.example.com", some "P1"⟩ ∧
      (rejected other).store.peer = none) ∧
    replaced.Reachable ∧
      (replaced.sentBy 0).map (fun r => r.options.baseUrl) = [some "https://peer.example.com"] ∧
      replaced.store.peer = some ⟨"https://next.example.com", none⟩ ∧
      (rejected replaced).store.peer = none := by
  have hreachable : ∀ s, (chosen.stretchRun s).Reachable :=
    reachable_stretchRun ⟨_, _, [], rfl⟩
  intro rejected own other replaced
  refine ⟨⟨hreachable _, ?_⟩, ⟨hreachable _, ?_⟩, hreachable _, ?_⟩ <;>
    simp only [own, other, replaced, rejected, chosen, RouteTable.standard_eq] <;>
    exact ⟨rfl, rfl, rfl⟩

end Console

end AdminConsole
