import AdminConsole.Proofs.Console.Moves
import AdminConsole.Proofs.Console.RefreshTokens
import AdminConsole.Proofs.Console.Writes
import AdminConsole.Proofs.Credentials.Twins
import Mathlib.Data.List.Forall2

/-!
# Where the refresh token goes

The refresh token of a session goes into the body of a renewal and nowhere else. To say so, two runs
are compared that follow the same events from states that hold different refresh tokens: whatever
anybody gets or sends is the same in both, but for what stands in the bodies of the renewals
(`refresh_token_confined`).

The token does steer the console, for a cycle writes the store only if the session still holds the
token that it was started with. What makes both runs take the same way is that the two answers to
this question agree (`Console.HoldsAlike`). They do when the cycle starts; no write can part them
that names neither token (`MovesAlike.holds_iff`); and as there is only one cycle at a time that has
not written yet, no other cycle can part them either. A write that does name one of the tokens can
tell the runs apart (`refresh_token_told`).
-/

namespace AdminConsole

open AdminConsole.Json AdminConsole.Text AdminConsole.Time

/-! ### Cycles that settle -/

/-- Twins are left as twins by a cycle whose refresh token is held by both or by none, and the cycle
has the same to tell. -/
theorem Store.Twins.settle {β : Type} [Backend β] {r r' u u' : String} {s s' : Store β}
    (h : s.Twins r r' s')
    (hagree : s.session.refresh = some u ↔ s'.session.refresh = some u') (now : Moment)
    (tokens : Except RenewalFailure RenewedTokens) :
    (s'.settle now u' tokens).1 = (s.settle now u tokens).1 ∧
      (s.settle now u tokens).2.Twins r r' (s'.settle now u' tokens).2 := by
  have hholds : s'.holds u' = s.holds u := by
    rw [Bool.eq_iff_iff, holds_iff, holds_iff, hagree]
  cases tokens with
  | ok t =>
    simp only [Store.settle, Store.renew, hholds]
    split <;> rename_i hheld
    · refine ⟨rfl, h.write now rfl ?_ h.stored.tunnelToken h.stored.tunnelServerToken⟩
      -- the session gets the new token, or keeps the one that was used
      simp only [Store.renewed]
      cases t.refresh.bind nonBlank? with
      | none => exact h.stored.refresh
      | some token => exact .refl r r' _
    · exact ⟨rfl, h⟩
  | error e =>
    simp only [Store.settle, Store.clearIf, hholds]
    split
    · exact ⟨trivial, h.write now rfl (.refl r r' none) h.stored.tunnelToken
        h.stored.tunnelServerToken⟩
    · exact ⟨trivial, h⟩

/-! ### Lists of twins -/

section Lists

variable {α : Type} {R : α → α → Prop} {l l' : List α} {a b : α}

theorem forall₂_set (h : List.Forall₂ R l l') (hab : R a b) (n : Nat) :
    List.Forall₂ R (l.set n a) (l'.set n b) := by
  induction h generalizing n with
  | nil => exact .nil
  | cons hhead htail ih =>
    cases n with
    | zero => exact .cons hab htail
    | succ n => exact .cons hhead (ih n)

theorem forall₂_getElem? (h : List.Forall₂ R l l') {n : Nat} (ha : l[n]? = some a) :
    ∃ b, l'[n]? = some b ∧ R a b := by
  induction h generalizing n with
  | nil => cases ha
  | cons hhead htail ih =>
    cases n with
    | zero =>
      cases ha
      exact ⟨_, rfl, hhead⟩
    | succ n => exact ih ha

end Lists

/-! ### Attachments do not read the refresh token -/

namespace Attachment

/-- The attachment does not read the refresh token. -/
def sparesRefresh : Attachment → Bool
  | .bearer sources => !sources.contains .refresh
  | .tunnelToken | .peer => true

/-- Nothing that is attached to a request reads the refresh token. -/
theorem sparesRefresh_plan (request : Request) (scope : Scope) :
    ∀ a ∈ plan request scope, a.sparesRefresh = true := by
  unfold plan
  split
  · nofun
  · cases scope with
    | tunnelClientOrServer =>
      simp only [ofScope]
      split <;> simp [sparesRefresh]
    | _ => simp [ofScope, sparesRefresh]

variable {β : Type} {r r' : String} {s s' : Store β} {a b : Attachment}

theorem sparesRefresh_remaining (ha : a.sparesRefresh = true) {request : Request}
    (h : (a.attach s request).remaining = some b) : b.sparesRefresh = true := by
  -- only a bearer whose first source is not there goes on, with its other sources
  cases a with
  | bearer sources =>
    cases sources with
    | nil => cases h
    | cons key keys =>
      simp only [attach] at h
      split at h
      · cases hbearer : withBearer request _ <;> rw [hbearer] at h <;> cases h
      · cases h
        simp only [sparesRefresh, List.contains_cons, Bool.not_or, Bool.and_eq_true] at ha ⊢
        exact ha.2
  | tunnelToken =>
    simp only [attach] at h
    split at h
    · cases htoken : withTunnelToken request _ <;> rw [htoken] at h <;> cases h
    · cases h
  | peer =>
    simp only [attach] at h
    split at h <;> cases h

/-- Twins attach the same. -/
theorem attach_twins (h : s.Twins r r' s') (ha : a.sparesRefresh = true) (request : Request) :
    a.attach s' request = a.attach s request := by
  cases a with
  | bearer sources =>
    cases sources with
    | nil => rfl
    | cons key keys =>
      have hkey : key ≠ .refresh := by
        rintro rfl
        simp [sparesRefresh] at ha
      rw [attach, attach, h.get_eq hkey]
  | tunnelToken => rw [attach, attach, h.get_eq (by simp)]
  | peer => rw [attach, attach, h.peer]

end Attachment

/-- Nothing that is still to be attached reads the refresh token. -/
def Exchange.SparesRefresh : Exchange → Prop
  | .preparing _ _ todo => ∀ a ∈ todo, a.sparesRefresh = true
  | _ => True

namespace Console

variable {β : Type} {c : Console β}

/-- Nothing that is still to be attached to a request of a caller reads the refresh token. -/
def SparesRefresh (c : Console β) : Prop :=
  ∀ (k : Nat) (goal : Goal) (x : Exchange), c.callers[k]? = some (.exchange goal x) →
    x.SparesRefresh

variable [Backend β]

theorem sparesRefresh_stepExchange {x : Exchange} (h : x.SparesRefresh) (now : Moment)
    (caller : Nat) : (c.stepExchange now caller x).1.SparesRefresh := by
  generalize hy : (c.stepExchange now caller x).1 = y
  cases Exchange.stepsTo_of_stepExchange hy with
  | attached request scope a rest hfailure =>
    intro b hb
    rcases List.mem_append.mp hb with hremaining | hrest
    · have ha : a.sparesRefresh = true := h a List.mem_cons_self
      exact Attachment.sparesRefresh_remaining ha (Option.mem_toList.mp hremaining)
    · exact h b (List.mem_cons_of_mem a hrest)
  | replayed hfinds hreplay => nofun
  | _ => trivial

theorem SparesRefresh.step (h : c.SparesRefresh) (now : Moment) (e : Event) :
    (c.step now e).SparesRefresh := by
  intro k goal x hthere
  cases movedRequest_of_getElem? hthere with
  | fresh request => exact Attachment.sparesRefresh_plan request _
  | reported => trivial
  | stayed hx he => exact h k goal _ hx
  | stepped hx he => exact sparesRefresh_stepExchange (h k goal _ hx) now k
  | @answered x result hx he =>
    have hbefore := h k goal _ hx
    cases x with
    | inFlight request scope =>
      cases result with
      | error e => trivial
      | ok response =>
        simp only [Exchange.answer]
        split <;> trivial
    | _ => exact hbefore

theorem Reachable.sparesRefresh (h : c.Reachable) : c.SparesRefresh := by
  obtain ⟨routes, store, s, rfl⟩ := h
  exact run_induction' (fun _ now e hd => hd.step now e) s fun k goal x hx => by
    simp [opened] at hx

end Console

/-! ### Twin consoles -/

/-- Cycles at the same stage, with twin refresh tokens. -/
structure Cycle.Twins (r r' : String) (cycle cycle' : Cycle) : Prop where
  stage : cycle'.stage = cycle.stage
  refreshToken : Twin r r' (some cycle.refreshToken) (some cycle'.refreshToken)

/-- The same request of the same sender, or renewals by the same cycle with twin refresh tokens. -/
inductive Transmission.Twins (r r' : String) : Transmission → Transmission → Prop
  | same (t : Transmission) : Twins r r' t t
  | renewal (id : CycleId) {u u' : String} (hu : Twin r r' (some u) (some u')) :
      Twins r r' ⟨.cycle id, Renewal.request u⟩ ⟨.cycle id, Renewal.request u'⟩

namespace Console

variable {β : Type} {r r' : String} {c c' : Console β}

/-- If the cycle in the slot has not written yet, either both sessions hold its refresh token or
none does. -/
def HoldsAlike (c c' : Console β) : Prop :=
  ∀ id cycle cycle', c.pending = some id → c.cycles[id]? = some cycle →
    c'.cycles[id]? = some cycle' → cycle.stage.hasWritten = false →
    (c.store.session.refresh = some cycle.refreshToken ↔
      c'.store.session.refresh = some cycle'.refreshToken)

/-- Consoles that are the same but for refresh tokens, which are twins. -/
structure Twins (r r' : String) (c c' : Console β) : Prop where
  routes : c'.routes = c.routes
  redirector : c'.redirector = c.redirector
  pending : c'.pending = c.pending
  callers : c'.callers = c.callers
  store : c.store.Twins r r' c'.store
  cycles : List.Forall₂ (Cycle.Twins r r') c.cycles c'.cycles
  log : List.Forall₂ (Transmission.Twins r r') c.log c'.log
  holds : c.HoldsAlike c'

namespace Twins

theorem outcome?_eq (h : c.Twins r r' c') (id : CycleId) : c'.outcome? id = c.outcome? id := by
  unfold outcome?
  cases hid : c.cycles[id]? with
  | none =>
    have hlength := h.cycles.length_eq
    have hnone : c'.cycles[id]? = none := by
      rw [List.getElem?_eq_none_iff] at hid ⊢
      omega
    rw [hnone]
  | some cycle =>
    obtain ⟨cycle', hid', htwins⟩ := forall₂_getElem? h.cycles hid
    rw [hid', Option.bind_some, Option.bind_some, Cycle.outcome?, Cycle.outcome?, htwins.stage]

/-- Looking for a cycle comes to the same. -/
theorem joinOrStart (h : c.Twins r r' c') (sent : Option String) :
    (c'.joinOrStart sent).1 = (c.joinOrStart sent).1 ∧
      (c.joinOrStart sent).2.Twins r r' (c'.joinOrStart sent).2 := by
  have haccess : c'.store.session.access = c.store.session.access := h.store.stored.access
  have htwin : Twin r r' c.store.session.refresh c'.store.session.refresh := h.store.stored.refresh
  cases hslot : c.pending with
  | some id =>
    rw [joinOrStart_of_pending hslot, joinOrStart_of_pending (h.pending.trans hslot)]
    exact ⟨rfl, h⟩
  | none =>
    have hslot' : c'.pending = none := h.pending.trans hslot
    cases hreplaced : replacement? c.store.session.access sent with
    | some token =>
      rw [joinOrStart_of_replaced hslot hreplaced,
        joinOrStart_of_replaced hslot' (haccess ▸ hreplaced)]
      exact ⟨rfl, h⟩
    | none =>
      have hreplaced' : replacement? c'.store.session.access sent = none := haccess ▸ hreplaced
      cases hrefresh : c.store.session.refresh with
      | none =>
        rw [hrefresh] at htwin
        rw [joinOrStart_of_no_refresh hslot hreplaced hrefresh,
          joinOrStart_of_no_refresh hslot' hreplaced' htwin.eq_none]
        exact ⟨rfl, h⟩
      | some u =>
        rw [hrefresh] at htwin
        obtain ⟨u', hrefresh'⟩ := htwin.exists_of_some
        have hlength : c'.cycles.length = c.cycles.length := h.cycles.length_eq.symm
        rw [joinOrStart_start hslot hreplaced hrefresh,
          joinOrStart_start hslot' hreplaced' hrefresh']
        refine ⟨by rw [hlength], { h with
          pending := by rw [hlength]
          cycles := List.rel_append h.cycles (.cons ⟨rfl, hrefresh' ▸ htwin⟩ .nil)
          holds := ?_ }⟩
        -- the new cycle was started with what the session holds
        intro id cycle cycle' hid hcycle hcycle' hstage
        obtain rfl : c.cycles.length = id := Option.some_inj.mp hid
        rw [List.getElem?_concat_length, Option.some_inj] at hcycle
        rw [← hlength, List.getElem?_concat_length, Option.some_inj] at hcycle'
        subst hcycle hcycle'
        exact iff_of_true hrefresh hrefresh'

/-- The refresh tokens of cycles that stand at one place are twins. -/
theorem twin_of_getElem? (h : c.Twins r r' c') {id : CycleId} {cycle cycle' : Cycle}
    (hid : c.cycles[id]? = some cycle) (hid' : c'.cycles[id]? = some cycle') :
    cycle.Twins r r' cycle' := by
  obtain ⟨found, hfound, htwins⟩ := forall₂_getElem? h.cycles hid
  rw [hid', Option.some_inj] at hfound
  exact hfound ▸ htwins

theorem decision_eq (h : c.Twins r r' c') (request : Request) (scope : Scope)
    (response : Response) :
    Exchange.decision c' request scope response = Exchange.decision c request scope response := by
  have haccess : c'.store.session.access = c.store.session.access := h.store.stored.access
  have hrefresh : c'.store.session.refresh.isSome = c.store.session.refresh.isSome :=
    h.store.stored.refresh.isSome_eq
  simp only [Exchange.decision, FailureContext.of, haccess, hrefresh]

/-! ### The cycles of twins -/

/-- A cycle that goes on and does not come back from having written. -/
theorem holds_set (h : c.HoldsAlike c') {id : CycleId} {u u' : String} {old stage : CycleStage}
    (hid : c.cycles[id]? = some ⟨u, old⟩) (hid' : c'.cycles[id]? = some ⟨u', old⟩)
    (hstage : stage.hasWritten = false → old.hasWritten = false) :
    ({ c with cycles := c.cycles.set id ⟨u, stage⟩ }).HoldsAlike
      { c' with cycles := c'.cycles.set id ⟨u', stage⟩ } := by
  intro j cycle cycle' hslot hcycle hcycle' hwritten
  by_cases hj : id = j
  · subst hj
    rw [List.getElem?_set_self (List.getElem?_eq_some_iff.mp hid).1, Option.some_inj] at hcycle
    rw [List.getElem?_set_self (List.getElem?_eq_some_iff.mp hid').1, Option.some_inj] at hcycle'
    subst hcycle hcycle'
    exact h id ⟨u, old⟩ ⟨u', old⟩ hslot hid hid' (hstage hwritten)
  · rw [List.getElem?_set_ne hj] at hcycle hcycle'
    exact h j cycle cycle' hslot hcycle hcycle' hwritten

theorem cycles_set (h : c.Twins r r' c') {u u' : String} (hu : Twin r r' (some u) (some u'))
    (id : CycleId) (stage : CycleStage) :
    List.Forall₂ (Cycle.Twins r r') (c.cycles.set id ⟨u, stage⟩) (c'.cycles.set id ⟨u', stage⟩) :=
  have hcycle : Cycle.Twins r r' ⟨u, stage⟩ ⟨u', stage⟩ := ⟨rfl, hu⟩
  forall₂_set h.cycles hcycle id

theorem goOn (h : c.Twins r r' c') (id : CycleId) (stage : CycleStage) :
    (c.goOn id stage).Twins r r' (c'.goOn id stage) := by
  by_cases hwaits : ∃ u, c.cycles[id]? = some ⟨u, .inFlight⟩
  · obtain ⟨u, hid⟩ := hwaits
    obtain ⟨⟨u', stage'⟩, hid', hstage, hu⟩ := forall₂_getElem? h.cycles hid
    obtain rfl : stage' = .inFlight := hstage
    rw [goOn_of_inFlight stage hid, goOn_of_inFlight stage hid']
    exact { h with
      cycles := h.cycles_set hu id stage
      holds := holds_set h.holds hid hid' fun _ => rfl }
  · have hwaits' : ∀ u, c'.cycles[id]? ≠ some ⟨u, .inFlight⟩ := by
      intro u' hid'
      obtain ⟨⟨u, stage⟩, hid, hstage, -⟩ := forall₂_getElem? h.cycles.flip hid'
      obtain rfl : CycleStage.inFlight = stage := hstage
      exact hwaits ⟨u, hid⟩
    rw [goOn_of_not_inFlight stage (not_exists.mp hwaits), goOn_of_not_inFlight stage hwaits']
    exact h

/-! ### The steps of twins -/

variable [Backend β]

/-- A request goes on alike. -/
theorem stepExchange_fst (h : c.Twins r r' c') {x : Exchange} (hx : x.SparesRefresh)
    (now : Moment) (caller : Nat) :
    (c'.stepExchange now caller x).1 = (c.stepExchange now caller x).1 := by
  cases x with
  | preparing request scope todo =>
    cases todo with
    | nil => rfl
    | cons a rest =>
      simp only [stepExchange, Attachment.attach_twins h.store (hx a List.mem_cons_self) request]
      cases (a.attach c.store request).failure <;> rfl
  | failed request scope response =>
    exact congrArg (Exchange.decided request scope response) (h.decision_eq request scope response)
  | joining request scope response =>
    have hjoined := (h.joinOrStart request.bearer).1
    simp only [stepExchange]
    rcases hc : c.joinOrStart request.bearer with ⟨joined, d⟩
    rcases hc' : c'.joinOrStart request.bearer with ⟨joined', d'⟩
    rw [hc, hc'] at hjoined
    obtain rfl : joined' = joined := hjoined
    cases joined' <;> rfl
  | waiting request scope response id =>
    simp only [stepExchange, h.outcome?_eq]
    cases c.outcome? id <;> rfl
  | reconsidering request scope response =>
    have hget : c'.store.get .access = c.store.get .access := h.store.get_eq (by simp)
    simp only [stepExchange, hget]
    cases replacement? (c.store.get .access) request.bearer <;> rfl
  | cleared request said => simp only [stepExchange, h.store.generation]
  | redirecting request said generation => simp only [stepExchange, h.redirector]
  | _ => rfl

/-- What a step does to what is shared, it does to both alike. -/
theorem under (h : c.Twins r r' c') {effect : Effect}
    (hwrites : ∀ w, effect = .writes w → w.Avoids r r' c.store.session) (now : Moment)
    (caller : Nat) : (c.under now caller effect).Twins r r' (c'.under now caller effect) := by
  cases effect with
  | nothing => exact h
  | sends request => exact { h with log := .cons (.same _) h.log }
  | joins sent => exact (h.joinOrStart sent).2
  | writes w =>
    obtain ⟨-, hstore, hmoves⟩ := h.store.apply (hwrites w rfl) now
    refine { h with store := hstore, holds := ?_ }
    intro id cycle cycle' hslot hid hid' hstage
    exact hmoves.holds_iff (h.twin_of_getElem? hid hid').refreshToken
      (h.holds id cycle cycle' hslot hid hid' hstage)
  | arms => exact { h with redirector := by rw [Console.under, Console.under, h.redirector] }
  | marks request generation =>
    exact { h with redirector := by rw [Console.under, Console.under, h.redirector] }
  | navigates => exact { h with redirector := by rw [Console.under, Console.under, h.redirector] }

/-- A caller goes on alike. -/
theorem stepActivity_fst (h : c.Twins r r' c') {a : Activity}
    (hspares : ∀ goal x, a = .exchange goal x → x.SparesRefresh)
    (hwrites : ∀ w, a.effect = .writes w → w.Avoids r r' c.store.session) (now : Moment)
    (caller : Nat) : (c'.stepActivity now caller a).1 = (c.stepActivity now caller a).1 := by
  have hget : c'.store.get .access = c.store.get .access := h.store.get_eq (by simp)
  cases a with
  | exchange goal x =>
    by_cases hover : ∃ result, x = .finished result
    · obtain ⟨result, rfl⟩ := hover
      rfl
    · rw [stepActivity_exchange now caller goal c (not_exists.mp hover),
        stepActivity_exchange now caller goal c' (not_exists.mp hover),
        h.stepExchange_fst (hspares goal x rfl)]
  | leaving =>
    have hin : c'.isAuthenticated = c.isAuthenticated := by
      rw [isAuthenticated, isAuthenticated, hget]
    simp only [stepActivity, hin, h.routes]
    cases c.isAuthenticated <;> rfl
  | asking => simp only [stepActivity, hget]
  | joining sent =>
    have hjoined := (h.joinOrStart sent).1
    simp only [stepActivity]
    rcases hc : c.joinOrStart sent with ⟨joined, d⟩
    rcases hc' : c'.joinOrStart sent with ⟨joined', d'⟩
    rw [hc, hc'] at hjoined
    obtain rfl : joined' = joined := hjoined
    cases joined' <;> rfl
  | waiting id =>
    simp only [stepActivity, h.outcome?_eq]
    cases c.outcome? id <;> rfl
  | writing w =>
    have hreply := (h.store.apply (hwrites w rfl) now).1
    simp only [stepActivity, hreply]
  | redirecting request generation => simp only [stepActivity, h.redirector]
  | _ => rfl

theorem advance (h : c.Twins r r' c') (hspares : c.SparesRefresh) {caller : Nat}
    (hwrites : ∀ w, c.write? (.advance caller) = some w → w.Avoids r r' c.store.session)
    (now : Moment) : (c.advance now caller).Twins r r' (c'.advance now caller) := by
  cases ha : c.callers[caller]? with
  | none =>
    have ha' : c'.callers[caller]? = none := h.callers ▸ ha
    rw [advance_of_getElem?_none ha, advance_of_getElem?_none ha']
    exact h
  | some a =>
    have ha' : c'.callers[caller]? = some a := h.callers ▸ ha
    have hself : ∀ w, a.effect = .writes w → w.Avoids r r' c.store.session := by
      intro w hw
      refine hwrites w ?_
      rw [write?, ha]
      exact Activity.write?_of_effect hw
    have hunder := h.under hself now caller
    rw [← stepActivity_snd, ← stepActivity_snd] at hunder
    rw [advance_of_getElem? ha, advance_of_getElem? ha']
    refine { hunder with callers := ?_ }
    have hmoved := h.stepActivity_fst (fun goal x heq => hspares caller goal x (heq ▸ ha)) hself
      now caller
    rw [hunder.callers, hmoved]

theorem advanceCycle (h : c.Twins r r' c') (hflight : c.SingleFlight) (id : CycleId)
    (now : Moment) : (c.advanceCycle now id).Twins r r' (c'.advanceCycle now id) := by
  cases hid : c.cycles[id]? with
  | none =>
    have hid' : c'.cycles[id]? = none := by
      rw [List.getElem?_eq_none_iff] at hid ⊢
      exact h.cycles.length_eq ▸ hid
    rw [advanceCycle_of_getElem?_none hid, advanceCycle_of_getElem?_none hid']
    exact h
  | some cycle =>
    obtain ⟨u, stage⟩ := cycle
    obtain ⟨⟨u', stage'⟩, hid', hstage, hu⟩ := forall₂_getElem? h.cycles hid
    obtain rfl : stage' = stage := hstage
    cases stage' with
    | ready =>
      rw [advanceCycle_ready now hid, advanceCycle_ready now hid']
      exact { h with
        cycles := h.cycles_set hu id _
        log := .cons (.renewal id hu) h.log
        holds := holds_set h.holds hid hid' fun _ => rfl }
    | answered tokens =>
      have hslot : c.pending = some id := (hflight.slot id).mpr ⟨_, hid, rfl⟩
      have hagree : c.store.session.refresh = some u ↔ c'.store.session.refresh = some u' :=
        h.holds id _ _ hslot hid hid' rfl
      obtain ⟨houtcome, hstore⟩ := h.store.settle hagree now tokens
      rw [advanceCycle_answered now hid, advanceCycle_answered now hid', houtcome]
      refine { h with store := hstore, cycles := h.cycles_set hu id _, holds := ?_ }
      -- the cycle in the slot has written
      intro j cycle cycle' hpending hcycle hcycle' hwritten
      obtain rfl : id = j := Option.some_inj.mp (hslot.symm.trans hpending)
      rw [List.getElem?_set_self (List.getElem?_eq_some_iff.mp hid).1, Option.some_inj] at hcycle
      subst hcycle
      cases hwritten
    | written outcome =>
      have hslot : c.pending = some id := (hflight.slot id).mpr ⟨_, hid, rfl⟩
      rw [advanceCycle_written now hid hslot, advanceCycle_written now hid' (h.pending.trans hslot)]
      exact { h with pending := rfl, cycles := h.cycles_set hu id _, holds := nofun }
    | released outcome =>
      rw [advanceCycle_released now hid, advanceCycle_released now hid']
      exact { h with cycles := h.cycles_set hu id _, holds := holds_set h.holds hid hid' nofun }
    | _ =>
      rw [advanceCycle_of_rests now hid rfl, advanceCycle_of_rests now hid' rfl]
      exact h

/-- **Steps.** -/
theorem step (h : c.Twins r r' c') (hflight : c.SingleFlight) (hspares : c.SparesRefresh)
    {e : Event} (hwrites : ∀ caller w, e = .advance caller → c.write? e = some w →
      w.Avoids r r' c.store.session) (now : Moment) :
    (c.step now e).Twins r r' (c'.step now e) := by
  cases e with
  | start op =>
    exact { h with callers := by simp only [Console.step, h.callers, h.routes] }
  | advance caller => exact h.advance hspares (fun w => hwrites caller w rfl) now
  | answer caller result =>
    simp only [Console.step, answer, h.callers]
    split
    · exact { h with callers := rfl }
    · exact h
  | cancel caller =>
    simp only [Console.step, cancel, h.callers]
    split
    · exact h
    · exact h
    · exact { h with callers := rfl }
  | advanceCycle id => exact h.advanceCycle hflight id now
  | answerCycle id result => exact h.goOn id _
  | killCycle id => exact h.goOn id .dead

end Twins

/-! ### Renewals -/

/-- Whatever a cycle has sent is a renewal, as it is made of its refresh token. -/
def RenewsPlainly (c : Console β) : Prop :=
  ∀ t ∈ c.log, t.isRenewal = true → ∃ token, t.request = Renewal.request token

/-- The console with another refresh token in its session, whatever its backend has kept. -/
def withRefresh (token : String) (backend : β) (c : Console β) : Console β :=
  { c with store := { c.store with
    stored := c.store.stored.set .refresh (some token)
    backend := backend } }

/-- Before any cycle is under way, only the session knows the refresh token. -/
theorem twins_withRefresh (hslot : c.pending = none) (hrefresh : c.store.session.refresh = some r)
    (r' : String) (backend : β) : c.Twins r r' (c.withRefresh r' backend) where
  routes := rfl
  redirector := rfl
  pending := rfl
  callers := rfl
  store := ⟨⟨rfl, Or.inr ⟨hrefresh, rfl⟩, rfl, rfl, rfl⟩, rfl, rfl⟩
  cycles := List.forall₂_same.mpr fun cycle _ => ⟨rfl, .refl r r' _⟩
  log := List.forall₂_same.mpr fun t _ => .same t
  holds id cycle cycle' hid := by
    rw [hslot] at hid
    cases hid

/-- What a cycle has sent in one of two twin consoles is a renewal if it is one in the other. -/
theorem Twins.renewsPlainly (h : c.Twins r r' c') (hplain : c.RenewsPlainly) :
    c'.RenewsPlainly := by
  intro t' ht' hrenewal
  obtain ⟨n, hn⟩ := List.mem_iff_getElem?.mp ht'
  obtain ⟨t, ht, htwins⟩ := forall₂_getElem? h.log.flip hn
  cases htwins with
  | same => exact hplain _ (List.mem_of_getElem? ht) hrenewal
  | renewal id hu => exact ⟨_, rfl⟩

/-- The write that a caller makes in the event, if any, names neither of the two tokens. -/
def Avoids (r r' : String) (c : Console β) (e : Event) : Prop :=
  ∀ caller w, e = .advance caller → c.write? e = some w → w.Avoids r r' c.store.session

theorem avoids_of_no_write {e : Event} (h : c.write? e = none) :
    Avoids r r' c e := by
  intro caller w he hw
  rw [h] at hw
  cases hw

variable [Backend β]

theorem RenewsPlainly.step (h : c.RenewsPlainly) (now : Moment) (e : Event) :
    (c.step now e).RenewsPlainly := by
  have hsame : ∀ d : Console β, d.log = c.log → d.RenewsPlainly := fun d hlog => by
    rw [RenewsPlainly, hlog]
    exact h
  cases e with
  | advance caller =>
    cases ha : c.callers[caller]? with
    | none => exact hsame _ (congrArg log (advance_of_getElem?_none ha))
    | some a =>
      have htouch := stepActivity_touch now caller a c
      rw [Console.step, advance_of_getElem? ha]
      generalize (c.stepActivity now caller a).2 = d at htouch
      cases htouch with
      | sent request =>
        -- what a caller sends is not sent by a cycle
        intro t ht hrenewal
        rcases List.mem_cons.mp ht with rfl | hold
        · cases hrenewal
        · exact h t hold hrenewal
      | _ => exact hsame _ rfl
  | advanceCycle id =>
    cases hid : c.cycles[id]? with
    | none => exact hsame _ (congrArg log (advanceCycle_of_getElem?_none hid))
    | some cycle =>
      obtain ⟨u, stage⟩ := cycle
      rw [Console.step, advanceCycle_of_getElem? hid]
      cases stage with
      | ready =>
        intro t ht hrenewal
        rcases List.mem_cons.mp ht with rfl | hold
        · exact ⟨u, rfl⟩
        · exact h t hold hrenewal
      | answered tokens => cases tokens <;> exact hsame _ rfl
      | _ => exact hsame _ rfl
  | _ => exact hsame _ (frame_step log (fun _ _ => rfl) rfl now)

theorem Reachable.renewsPlainly (h : c.Reachable) : c.RenewsPlainly := by
  obtain ⟨routes, store, s, rfl⟩ := h
  exact run_induction' (fun _ now e hd => hd.step now e) s nofun

/-! ### Whole runs -/

/-- **Whole runs.** Twins stay twins. -/
theorem Twins.run {s : List (Moment × Event)} (h : c.Twins r r' c') (hflight : c.SingleFlight)
    (hspares : c.SparesRefresh) (hs : Obeys (Avoids r r') c s) :
    (c.run s).Twins r r' (c'.run s) := by
  induction s generalizing c c' with
  | nil => exact h
  | cons x rest ih =>
    obtain ⟨now, e⟩ := x
    exact ih (h.step hflight hspares hs.1 now) (hflight.step now e) (hspares.step now e) hs.2

/-- **The refresh token is confined.** A console has no cycle under way and holds a refresh token in
its session. Another one differs from it in that token only, and whatever its backend has kept. Both
go through the same events, none of which is a write by a caller that names one of the two tokens.
Then every caller stands at the same place in both runs and has got the same, the user is on the
same page, the stores differ in the refresh token at most, and what was sent is the same but for the
bodies of the renewals. Each of those is posted to where sessions are renewed, with a body that is
the refresh token and nothing else, without headers and to the configured address. -/
theorem refresh_token_confined (hreachable : c.Reachable) (hslot : c.pending = none)
    (hrefresh : c.store.session.refresh = some r) (r' : String) (backend : β)
    {s : List (Moment × Event)} (hs : Obeys (Avoids r r') c s) :
    let d := c.run s
    let d' := (c.withRefresh r' backend).run s
    d'.callers = d.callers ∧ d'.redirector = d.redirector ∧ d.store.Twins r r' d'.store ∧
      List.Forall₂ (Transmission.Twins r r') d.log d'.log ∧
      ∀ t ∈ d.log ++ d'.log, t.isRenewal = true → ∃ token, t.request =
        { method := .post
          path := Endpoint.renewal
          body := some (.object [("refresh_token", .string token)])
          headers := {}
          options := { silent := false, bypassAuth := true, baseUrl := none }
          retried := false } := by
  intro d d'
  have htwins : d.Twins r r' d' := (twins_withRefresh hslot hrefresh r' backend).run
    hreachable.singleFlight hreachable.sparesRefresh hs
  have hplain : d.RenewsPlainly := run_induction' (fun _ now e hd => hd.step now e) s
    hreachable.renewsPlainly
  refine ⟨htwins.callers, htwins.redirector, htwins.store, htwins.log, fun t ht hrenewal => ?_⟩
  rcases List.mem_append.mp ht with hleft | hright
  · exact hplain t hleft hrenewal
  · exact htwins.renewsPlainly hplain t hright hrenewal

/-! ### Two runs -/

/-- A request is rejected, the session is renewed, and the request is sent again and answered. -/
def renewedListing : List (Moment × Event) :=
  [ .advance 0, .advance 0, .answer 0 (.ok .expired), .advance 0, .advance 0, .advanceCycle 0,
    .answerCycle 0 (.ok Renewal.grant), .advanceCycle 0, .advanceCycle 0, .advanceCycle 0,
    .advance 0, .advance 0, .answer 0 (.ok ⟨default, "[]"⟩) ].map (default, ·)

/-- The caller gets its answer in both runs, and the two renewals carry the two tokens. -/
theorem refresh_token_confined_renewing :
    let d := listing.run renewedListing
    let d' := (listing.withRefresh "R2" ⟨none⟩).run renewedListing
    d.callers = [.exchange .response (.finished (.ok ⟨default, "[]"⟩))] ∧ d'.callers = d.callers ∧
      d.store.session = ⟨some "A2", some "R1"⟩ ∧ d'.store.session = ⟨some "A2", some "R2"⟩ ∧
      d.presented = ["R1"] ∧ d'.presented = ["R2"] ∧
      List.Forall₂ (Transmission.Twins "R1" "R2") d.log d'.log := by
  intro d d'
  have hreachable : listing.Reachable := ⟨_, _, [(default, .start (.send .listing))], rfl⟩
  have hs : Obeys (Avoids "R1" "R2") listing renewedListing := by
    refine ⟨avoids_of_no_write rfl, avoids_of_no_write rfl, avoids_of_no_write rfl,
      avoids_of_no_write rfl, avoids_of_no_write rfl, avoids_of_no_write rfl,
      avoids_of_no_write rfl, nofun, avoids_of_no_write rfl, avoids_of_no_write rfl,
      avoids_of_no_write rfl, avoids_of_no_write rfl, avoids_of_no_write rfl, trivial⟩
  obtain ⟨hcallers, -, -, hlog, -⟩ :=
    refresh_token_confined hreachable rfl rfl "R2" ⟨none⟩ hs
  exact ⟨rfl, hcallers, rfl, rfl, rfl, rfl, hlog⟩

/-- Somebody clears the session, provided that it still holds a token. -/
def clearingIf : List (Moment × Event) :=
  [.start (.write (.clearIf "R1")), .advance 0].map (default, ·)

/-- Who names one of the tokens to the store is told which of them the session holds, though nobody
installs a refresh token. -/
theorem refresh_token_told :
    signedIn.Reachable ∧ signedIn.pending = none ∧ signedIn.store.session.refresh = some "R1" ∧
      Obeys (fun c e => ∀ w, c.write? e = some w → w.installed? c.store.session = none) signedIn
        clearingIf ∧
      (signedIn.run clearingIf).callers = [.finished (.reply (.accepted true))] ∧
      ((signedIn.withRefresh "R2" ⟨none⟩).run clearingIf).callers =
        [.finished (.reply (.accepted false))] := by
  refine ⟨⟨_, _, [], rfl⟩, rfl, rfl, ⟨nofun, fun w hw => ?_, trivial⟩, rfl, rfl⟩
  obtain rfl : .clearIf "R1" = w := Option.some_inj.mp hw
  rfl

end Console

end AdminConsole
