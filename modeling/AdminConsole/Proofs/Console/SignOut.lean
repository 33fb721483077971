import AdminConsole.Proofs.Console.BoundedReplay
import AdminConsole.Proofs.Console.Moves
import AdminConsole.Proofs.Console.Stretch
import AdminConsole.Proofs.Console.Writes

/-!
# Signing out

A caller that signs out tells the server, if anyone is signed in, and clears the session and drops
the peer whatever comes of that. Its request goes through the console like any other, so on the way
it may be sent again, wait for a renewal, or clear the session and send the user to the login page.
`SigningOut` lists where such a caller may stand, and `ClosedIn` names the step of its own that
makes the outcome certain.

An empty session is filled by nobody but one who says what is in it: a renewal that settles later
finds that its refresh token is not there any more (`Store.session_apply_of_empty`). `logout_final`
puts the two together. The session is cleared in one step and the peer dropped in the next. Where
others may get between the two, somebody may sign in there, and is still signed in when the caller
is done (`newer_session_outlives_logout`); where they may not, both are gone in the end. Empty is a
session without tokens: with a blank refresh token in it, a renewal can fill it.
-/

namespace AdminConsole

open AdminConsole.Text AdminConsole.Time

/-! ### Where a caller that signs out stands -/

/-- The caller signs out, or has signed out. -/
inductive Activity.SigningOut : Activity → Prop
  | leaving : SigningOut .leaving
  | exchanging (x : Exchange) : SigningOut (.exchange .signOut x)
  | closing : SigningOut .closing
  | parting : SigningOut .parting
  | done : SigningOut (.finished .done)
  | cancelled : SigningOut .cancelled

/-- The steps of a caller that signs out: whatever comes of its request, it closes the session, and
then drops the peer. -/
inductive SignOutStep : Activity → Activity → Prop
  | exchanging (a : Activity) (x : Exchange) : SignOutStep a (.exchange .signOut x)
  | closing (a : Activity) : SignOutStep a .closing
  | parting : SignOutStep .closing .parting
  | done : SignOutStep .parting (.finished .done)
  | ended {a : Activity} (hover : a = .finished .done ∨ a = .cancelled) : SignOutStep a a

theorem SignOutStep.signingOut {a a' : Activity} (h : SignOutStep a a') : a'.SigningOut := by
  cases h with
  | exchanging a x => exact .exchanging x
  | closing a => exact .closing
  | parting => exact .parting
  | done => exact .done
  | ended hover =>
    rcases hover with rfl | rfl
    · exact .done
    · exact .cancelled

/-- What a caller that signs out writes fills no session and is none to the tunnels. -/
theorem Activity.SigningOut.spares {a : Activity} (h : a.SigningOut) {w : StoreWrite}
    (hw : a.write? = some w) : w.choosesSession = false ∧ w.sparesTunnels = true := by
  cases h with
  | exchanging x =>
    cases x with
    | droppingPeer e => cases hw; exact ⟨rfl, rfl⟩
    | clearing request said => cases hw; exact ⟨rfl, rfl⟩
    | _ => cases hw
  | closing => cases hw; exact ⟨rfl, rfl⟩
  | parting => cases hw; exact ⟨rfl, rfl⟩
  | _ => cases hw

/-- What a cycle writes fills no empty session and is none to the tunnels. -/
theorem Cycle.spares {cycle : Cycle} {w : StoreWrite} (hw : cycle.write? = some w) :
    w.choosesSession = false ∧ w.sparesTunnels = true := by
  obtain ⟨used, stage⟩ := cycle
  cases stage with
  | answered tokens => cases tokens <;> (cases hw; exact ⟨rfl, rfl⟩)
  | _ => cases hw

namespace Console

variable {β : Type} [Backend β] {c d : Console β} {caller : Nat}

theorem signOutStep_stepActivity {a : Activity} (h : a.SigningOut) (now : Moment) (caller : Nat)
    (c : Console β) : SignOutStep a (c.stepActivity now caller a).1 := by
  cases h with
  | leaving =>
    simp only [stepActivity]
    split
    · exact .exchanging _ _
    · exact .closing _
  | exchanging x =>
    cases x with
    | finished result => exact .closing _
    | _ => exact .exchanging _ _
  | closing => exact .parting
  | parting => exact .done
  | done => exact .ended (Or.inl rfl)
  | cancelled => exact .ended (Or.inr rfl)

/-! ### Runs in which a caller signs out -/

/-- In this run the caller has cleared the session and has taken no step since. -/
def ClosedIn (caller : Nat) (c : Console β) (s : List (Moment × Event)) : Prop :=
  ∃ s₁ m s₂, s = s₁ ++ (m, .advance caller) :: s₂ ∧
    (∀ x ∈ s₂, x.2.isStepOf caller = false) ∧
    let closed := (c.run s₁).step m (.advance caller)
    closed.store.session = {} ∧ closed.canAdvance caller = true

theorem ClosedIn.append {s : List (Moment × Event)} (h : c.ClosedIn caller s) (now : Moment)
    {e : Event} (he : e.isStepOf caller = false) : c.ClosedIn caller (s ++ [(now, e)]) := by
  obtain ⟨s₁, m, s₂, rfl, hothers, hclosed⟩ := h
  refine ⟨s₁, m, s₂ ++ [(now, e)], by simp, fun x hx => ?_, hclosed⟩
  rcases List.mem_append.mp hx with hmem | hlast
  · exact hothers x hmem
  · rw [List.mem_singleton.mp hlast]
    exact he

/-- A caller that signs out, in a run: it stands where it may, and drops the peer only once it has
cleared the session. -/
def SigningOut (caller : Nat) (c : Console β) (s : List (Moment × Event)) : Prop :=
  ∃ a, (c.run s).callers[caller]? = some a ∧ a.SigningOut ∧
    (a = .parting → c.ClosedIn caller s)

/-- **Steps of a run.** -/
theorem SigningOut.append {s : List (Moment × Event)} (h : c.SigningOut caller s) (now : Moment)
    (e : Event) : c.SigningOut caller (s ++ [(now, e)]) := by
  obtain ⟨a, ha, hsigning, hclosed⟩ := h
  obtain ⟨b, hb, hmove⟩ := exists_onward ha now e
  rw [SigningOut, run_append_singleton]
  refine ⟨b, hb, ?_⟩
  cases hmove with
  | stayed he hdeed =>
    exact ⟨hsigning, fun hparting => (hclosed hparting).append now (Event.isStepOf_of_ne he)⟩
  | stepped he =>
    subst he
    have hstep := signOutStep_stepActivity hsigning now caller (c.run s)
    refine ⟨hstep.signingOut, fun hparting => ⟨s, now, [], rfl, by simp, ?_, ?_⟩⟩
    · -- only one who clears the session comes to drop the peer
      rw [hparting] at hstep
      cases hstep with
      | parting =>
        rw [step, advance_of_getElem? ha]
        rfl
      | ended hover => rcases hover with hover | hover <;> cases hover
    · rw [hparting] at hb
      simp only [canAdvance, hb]
  | answered result he =>
    cases hsigning
    exact ⟨.exchanging _, fun hparting => by cases hparting⟩
  | left he => exact ⟨.cancelled, fun hparting => by cases hparting⟩

theorem SigningOut.run {s : List (Moment × Event)} (h : c.SigningOut caller s)
    (t : List (Moment × Event)) : c.SigningOut caller (s ++ t) := by
  induction t generalizing s with
  | nil => exact (List.append_nil s).symm ▸ h
  | cons x rest ih =>
    have hrest := ih (h.append x.1 x.2)
    rwa [List.append_assoc] at hrest

theorem signingOut_of_leaving (h : c.callers[caller]? = some .leaving)
    (s : List (Moment × Event)) : c.SigningOut caller s :=
  SigningOut.run (s := []) ⟨_, h, .leaving, fun hparting => by cases hparting⟩ s

/-- The step in which a caller that signs out is done is that in which it drops the peer. -/
theorem SigningOut.parts {s : List (Moment × Event)} (h : c.SigningOut caller s) {now : Moment}
    {e : Event} (hnot : (c.run s).callers[caller]? ≠ some (.finished .done))
    (hdone : ((c.run s).step now e).callers[caller]? = some (.finished .done)) :
    e = .advance caller ∧ (c.run s).callers[caller]? = some .parting := by
  obtain ⟨a, ha, hsigning, -⟩ := h
  obtain ⟨b, hb, hmove⟩ := exists_onward ha now e
  obtain rfl : b = .finished .done := Option.some_inj.mp (hb.symm.trans hdone)
  generalize hend : Activity.finished .done = b at hmove
  cases hmove with
  | stayed he hdeed => exact absurd (hend ▸ ha) hnot
  | stepped he =>
    have hstep := signOutStep_stepActivity hsigning now caller (c.run s)
    rw [← hend] at hstep
    cases hstep with
    | done => exact ⟨he, ha⟩
    | ended hover => exact absurd ha hnot
  | answered result he => cases hend
  | left he => cases hend

/-- Between two steps of a stretch nothing happens. -/
theorem Unbroken.of_append_cons {midway : Bool} {s₁ s₂ : List (Moment × Event)} {now : Moment}
    {e : Event} (h : c.Unbroken caller midway (s₁ ++ (now, e) :: s₂)) :
    ((c.run s₁).step now e).Unbroken caller
      (e.isStepOf caller && ((c.run s₁).step now e).canAdvance caller) s₂ := by
  induction s₁ generalizing c midway with
  | nil => exact h.2
  | cons x rest ih => exact ih h.2

theorem ClosedIn.session_of_unbroken {s : List (Moment × Event)} (h : c.ClosedIn caller s)
    {now : Moment} (hs : c.Unbroken caller false (s ++ [(now, .advance caller)])) :
    (c.run s).store.session = {} := by
  obtain ⟨s₁, m, s₂, rfl, hothers, hempty, hcan⟩ := h
  rw [List.append_assoc, List.cons_append] at hs
  have hrest := hs.of_append_cons
  have hmidway : (Event.advance caller).isStepOf caller = true := beq_self_eq_true caller
  rw [hmidway, hcan] at hrest
  cases s₂ with
  | nil =>
    rw [run_append_singleton]
    exact hempty
  | cons x rest =>
    -- nobody else comes in between
    have hfirst := hothers x List.mem_cons_self
    rw [hrest.1 rfl] at hfirst
    cases hfirst

/-- Whatever came of its request, a caller that signs out closes the session and drops the peer. -/
theorem stretch_of_answered {result : Except ApiError Response}
    (h : c.callers[caller]? = some (.exchange .signOut (.finished result))) (now : Moment) :
    c.stretch now caller =
      { c with
        store := (c.store.clear now .session).clearPeer
        callers := c.callers.set caller (.finished .done) } := by
  rw [stretch_eq h]
  rfl

/-! ### Nobody is signed in again -/

theorem tunnelTokens_step {e : Event}
    (h : ∀ w, c.write? e = some w → w.sparesTunnels = true) (now : Moment) :
    (c.step now e).store.stored.tunnelToken = c.store.stored.tunnelToken ∧
      (c.step now e).store.stored.tunnelServerToken = c.store.stored.tunnelServerToken := by
  rw [store_step]
  cases hw : c.write? e with
  | none => exact ⟨rfl, rfl⟩
  | some w => exact c.store.tunnelTokens_apply_of_spares now w (h w hw)

/-- **Signing out.** Somebody signs out, and anything may happen meanwhile: the server may answer as
it likes, and others may do what they like. At the step in which the caller is done no peer is
selected, and the session is empty if nobody got between two steps of one of its stretches; it was
empty after a step of the caller in any case, and still is if nobody has said since what is in it.
Whatever comes of the request to the server, the caller gets there in the stretch in which it goes
on. Neither its steps nor those of a cycle change the tokens of the tunnels. And from any state in
which the session is empty it stays empty until somebody says what is in it. -/
theorem logout_final (hcaller : c.callers[caller]? = some .leaving) :
    (∀ s now e, (c.run s).callers[caller]? ≠ some (.finished .done) →
      ((c.run s).step now e).callers[caller]? = some (.finished .done) →
      let ended := (c.run s).step now e
      ended.store.peer = none ∧
        (c.Unbroken caller false (s ++ [(now, e)]) → ended.store.session = {}) ∧
        ∃ s₁ m s₂, s = s₁ ++ (m, .advance caller) :: s₂ ∧
          let closed := (c.run s₁).step m (.advance caller)
          closed.store.session = {} ∧
            (closed.Writes (fun w => w.choosesSession = false) s₂ → ended.store.session = {})) ∧
      (∀ s now result, (c.run s).callers[caller]? = some (.exchange .signOut (.finished result)) →
        let ended := (c.run s).stretch now caller
        ended.callers[caller]? = some (.finished .done) ∧ ended.store.session = {} ∧
          ended.store.peer = none) ∧
      (∀ s now e, (e = .advance caller ∨ ∃ id, e = .advanceCycle id) →
        ((c.run s).step now e).store.stored.tunnelToken = (c.run s).store.stored.tunnelToken ∧
          ((c.run s).step now e).store.stored.tunnelServerToken =
            (c.run s).store.stored.tunnelServerToken) ∧
      ∀ (d : Console β) t, d.store.session = {} →
        d.Writes (fun w => w.choosesSession = false) t → (d.run t).store.session = {} := by
  refine ⟨fun s now e hnot hdone => ?_, fun s now result hover => ?_, fun s now e he => ?_,
    fun d t hempty ht => session_run_of_empty hempty ht⟩
  · have hsigning := signingOut_of_leaving hcaller s
    obtain ⟨rfl, hparting⟩ := hsigning.parts hnot hdone
    have hover : ((c.run s).step now (.advance caller)).store = (c.run s).store.clearPeer := by
      rw [store_step, write?, hparting]
      rfl
    obtain ⟨a, ha, -, hclosed⟩ := hsigning
    rw [hparting, Option.some_inj] at ha
    have hclosed := hclosed ha.symm
    intro ended
    refine ⟨congrArg Store.peer hover, fun hs => ?_, ?_⟩
    · exact (congrArg Store.session hover).trans (hclosed.session_of_unbroken hs)
    · obtain ⟨s₁, m, s₂, rfl, -, hempty, -⟩ := hclosed
      refine ⟨s₁, m, s₂, rfl, hempty, fun hwrites => ?_⟩
      refine (congrArg Store.session hover).trans ?_
      rw [run_append_cons]
      exact session_run_of_empty hempty hwrites
  · have hlt := (List.getElem?_eq_some_iff.mp hover).1
    rw [stretch_of_answered hover]
    exact ⟨List.getElem?_set_self hlt, rfl, rfl⟩
  · refine tunnelTokens_step (fun w hw => ?_) now
    rcases he with rfl | ⟨id, rfl⟩
    · obtain ⟨a, ha, hsigning, -⟩ := signingOut_of_leaving hcaller s
      rw [write?, ha] at hw
      exact (hsigning.spares hw).2
    · obtain ⟨cycle, -, hcycle⟩ := Option.bind_eq_some_iff.mp hw
      exact (Cycle.spares hcycle).2

/-- A renewal is under way, and the user is about to sign out. -/
def renewalUnderWay : Console MemoryBackend :=
  guarded.run <| List.map (default, ·)
    [ .start (.send .listing), .advance 0, .advance 0, .answer 0 (.ok .expired), .advance 0,
      .advance 0, .advanceCycle 0, .start .logout ]

/-- The server cannot be reached, and the session is closed all the same. -/
def unheard : List (Moment × Event) :=
  [ .advance 1, .advance 1, .advance 1, .answer 1 (.error (.network "down")), .advance 1,
    .advance 1 ].map (default, ·)

/-- The renewal is granted. -/
def granted : List (Moment × Event) :=
  [ .answerCycle 0 (.ok Renewal.grant), .advanceCycle 0, .advanceCycle 0, .advanceCycle 0 ].map
    (default, ·)

/-- A renewal that is granted after the user has signed out installs nothing. -/
theorem logout_final_renewing :
    let ended := (renewalUnderWay.run unheard).step default (.advance 1)
    ended.callers[1]? = some (.finished .done) ∧ ended.store.session = {} ∧
      ended.store.peer = none ∧ (ended.run granted).store.session = {} := by
  intro ended
  have hcaller : renewalUnderWay.callers[1]? = some .leaving := rfl
  have hparting : (renewalUnderWay.run unheard).callers[1]? = some .parting := rfl
  have hdone : ended.callers[1]? = some (.finished .done) := rfl
  have hunbroken : renewalUnderWay.Unbroken 1 false (unheard ++ [(default, .advance 1)]) := by
    decide
  obtain ⟨hover, -, -, hempty⟩ := logout_final hcaller
  obtain ⟨hpeer, hsession, -⟩ := hover unheard default (.advance 1) (by rw [hparting]; nofun) hdone
  have hwrites : ended.Writes (fun w => w.choosesSession = false) granted :=
    ⟨nofun, fun w hw => by cases hw; rfl, nofun, nofun, trivial⟩
  exact ⟨hdone, hsession hunbroken, hpeer, hempty ended granted (hsession hunbroken) hwrites⟩

/-- Another session is installed. -/
def signingInBetween : List (Moment × Event) :=
  [.start (.write (.setSession ⟨some "B1", some "R9"⟩)), .advance 2].map (default, ·)

/-- The session has no access token and a blank refresh token. -/
def blankRefresh : Console MemoryBackend := opened ⟨[]⟩ (.inMemory ⟨none, some ""⟩)

/-- The session is renewed. -/
def renewed : List (Moment × Event) :=
  [.start .refresh, .advance 0, .advance 0, .advanceCycle 0].map (default, ·) ++ granted

/-- Where somebody installs another session between the two steps of one who signs out, it is there
in the end. And a session whose tokens are blank can be renewed, though nobody has said what is in
it since. -/
theorem newer_session_outlives_logout :
    let ended := (renewalUnderWay.run (unheard ++ signingInBetween)).step default (.advance 1)
    renewalUnderWay.callers[1]? = some .leaving ∧ ended.callers[1]? = some (.finished .done) ∧
      ended.store.session = ⟨some "B1", some "R9"⟩ ∧
      blankRefresh.store.session = ⟨none, some ""⟩ ∧ isBlank "" = true ∧
      (blankRefresh.run renewed).store.session = ⟨some "A2", some ""⟩ :=
  ⟨rfl, rfl, rfl, rfl, rfl, rfl⟩

end Console

end AdminConsole
