import AdminConsole.Proofs.Console.NewerSession
import AdminConsole.Proofs.Console.RefreshTokens
import AdminConsole.Proofs.Console.Rejections
import AdminConsole.Proofs.Console.Writes

/-!
# Signing in while a renewal is under way

A session is installed while a cycle of an older one is under way. Whatever the renewal comes to,
the cycle finds that its refresh token is not there any more, writes nothing, and has no token to
tell (`CycleStage.hasInstalled`). Those who waited for it look again, find the token of the new
session, and send their requests with it.

What could go wrong is that somebody is busy with a rejection of another kind: a caller that is
about to clear the session, or whose request carried the new token when it was rejected. The second
is a matter of which requests the server rejects (`Console.Unrejected`). The first does not come
about by itself (`Exchange.Abides`), but a caller may have been about to clear the session when it
was installed. And somebody may ask for a renewal of the new session, which no request does
(`cycles_advance_of_unrejected`). `Console.Overtakes` lists these two, and `sign_in_kept` says what
holds until the session is overtaken: it stays as it was installed, and `Exchange.Resumes` is what
becomes of one that waits, with the number of steps that it is away from sending its request again.
Others may get in between any two of these steps. What is left to a caller whose session was
overtaken, or that goes away, is in `sign_in_overtaken`.
-/

namespace AdminConsole

open AdminConsole.Time

/-! ### Cycles that come to nothing -/

/-- The cycle has installed a token. -/
def CycleStage.hasInstalled : CycleStage → Bool
  | .written (.ok _) | .released (.ok _) | .settled (.ok _) => true
  | .ready | .inFlight | .answered _ | .written (.error _) | .released (.error _)
  | .settled (.error _) | .dead => false

theorem CycleStage.hasInstalled_of_not_written {stage : CycleStage} (h : stage.hasWritten = false) :
    stage.hasInstalled = false := by
  cases stage with
  | written _ => cases h
  | released _ => cases h
  | settled _ => cases h
  | _ => rfl

/-- A cycle has nothing to tell where its refresh token is not held any more. -/
theorem Store.hasInstalled_settle_of_not_holds {β : Type} [Backend β] {s : Store β} {used : String}
    (h : s.session.refresh ≠ some used) (now : Moment)
    (tokens : Except RenewalFailure RenewedTokens) :
    (CycleStage.written (s.settle now used tokens).1).hasInstalled = false := by
  have hholds : s.holds used = false := Bool.eq_false_iff.mpr fun hholds => h (holds_iff.mp hholds)
  cases tokens with
  | ok t =>
    simp only [settle, renew, hholds, Bool.false_eq_true, if_false]
    rfl
  | error e => rfl

namespace Console

variable {β : Type} {c : Console β} {id : CycleId}

/-- The cycle was started with this refresh token, and has installed nothing. -/
def Barren (id : CycleId) (used : String) (c : Console β) : Prop :=
  ∃ stage, c.cycles[id]? = some ⟨used, stage⟩ ∧ stage.hasInstalled = false

/-- A cycle that has installed nothing tells nobody a token. -/
theorem Barren.outcome?_ne {used : String} (h : c.Barren id used) (token : String) :
    c.outcome? id ≠ some (.ok token) := by
  obtain ⟨stage, hid, hstage⟩ := h
  rw [outcome?, hid, Option.bind_some]
  cases stage with
  | settled outcome =>
    rintro ⟨⟩
    cases hstage
  | _ => simp [Cycle.outcome?]

theorem Barren.goOn {used : String} (h : c.Barren id used) {stage : CycleStage}
    (hstage : stage.hasInstalled = false) (j : CycleId) : (c.goOn j stage).Barren id used := by
  obtain ⟨current, hid, hcurrent⟩ := h
  by_cases hj : j = id
  · subst hj
    by_cases hinFlight : ∃ refreshToken, c.cycles[j]? = some ⟨refreshToken, .inFlight⟩
    · obtain ⟨refreshToken, hinFlight⟩ := hinFlight
      obtain rfl : used = refreshToken := by
        rw [hid, Option.some_inj, Cycle.mk.injEq] at hinFlight
        exact hinFlight.1
      rw [goOn_of_inFlight stage hinFlight]
      exact ⟨stage, List.getElem?_set_self (List.getElem?_eq_some_iff.mp hid).1, hstage⟩
    · rw [goOn_of_not_inFlight stage (not_exists.mp hinFlight)]
      exact ⟨current, hid, hcurrent⟩
  · exact ⟨current, (getElem?_cycles_goOn_of_ne hj stage c).trans hid, hcurrent⟩

variable [Backend β]

theorem Barren.advanceCycle {used : String} (h : c.Barren id used)
    (hrefresh : c.store.session.refresh ≠ some used) (now : Moment) :
    (c.advanceCycle now id).Barren id used := by
  obtain ⟨stage, hid, hstage⟩ := h
  have hlt := (List.getElem?_eq_some_iff.mp hid).1
  cases stage with
  | answered tokens =>
    rw [advanceCycle_answered now hid]
    exact ⟨_, List.getElem?_set_self hlt,
      Store.hasInstalled_settle_of_not_holds hrefresh now tokens⟩
  | written outcome =>
    rw [advanceCycle_of_getElem? hid]
    cases outcome <;> exact ⟨_, List.getElem?_set_self hlt, hstage⟩
  | released outcome =>
    rw [advanceCycle_released now hid]
    cases outcome <;> exact ⟨_, List.getElem?_set_self hlt, hstage⟩
  | ready =>
    rw [advanceCycle_ready now hid]
    exact ⟨_, List.getElem?_set_self hlt, rfl⟩
  | _ =>
    rw [advanceCycle_of_rests now hid rfl]
    exact ⟨_, hid, hstage⟩

/-- **Steps of a run.** A cycle whose refresh token is not in the store installs nothing. -/
theorem Barren.step {used : String} (h : c.Barren id used)
    (hrefresh : c.store.session.refresh ≠ some used) (now : Moment) (e : Event) :
    (c.step now e).Barren id used := by
  cases hspares : e.spares id with
  | true =>
    obtain ⟨stage, hid, hstage⟩ := h
    have hlt := (List.getElem?_eq_some_iff.mp hid).1
    exact ⟨stage, (getElem?_cycles_step hlt hspares now).trans hid, hstage⟩
  | false =>
    cases e with
    | advanceCycle j =>
      obtain rfl : j = id := by simpa [Event.spares] using hspares
      exact h.advanceCycle hrefresh now
    | answerCycle j result => exact h.goOn rfl j
    | killCycle j => exact h.goOn rfl j
    | _ => cases hspares

end Console

/-! ### Callers that leave the session alone -/

namespace Exchange

/-- The caller is about to act on a rejection: to look at the session, to look for a cycle, or to
clear the session. -/
def actsOnRejection : Exchange → Bool
  | .failed _ _ response => response.status.code = 401
  | .joining _ _ _ | .clearing _ _ => true
  | .preparing _ _ _ | .inFlight _ _ | .droppingPeer _ | .waiting _ _ _ _ | .reconsidering _ _ _
  | .cleared _ _ | .redirecting _ _ _ | .navigating _ | .finished _ => false

/-- The caller neither looks for a cycle nor clears the session, and if it looks at the session
after a rejection, then it may send its request again. -/
def Abides : Exchange → Prop
  | .failed request scope response =>
    response.status.code = 401 → request.CallsForRenewal scope response
  | .joining _ _ _ | .clearing _ _ => False
  | .preparing _ _ _ | .inFlight _ _ | .droppingPeer _ | .waiting _ _ _ _ | .reconsidering _ _ _
  | .cleared _ _ | .redirecting _ _ _ | .navigating _ | .finished _ => True

theorem abides_of_not_actsOnRejection {x : Exchange} (h : x.actsOnRejection = false) :
    x.Abides := by
  cases x with
  | failed request scope response => exact fun hcode => absurd hcode (of_decide_eq_false h)
  | joining _ _ _ => cases h
  | clearing _ _ => cases h
  | _ => trivial

/-- A token that the request does not carry takes the place of what it carries. -/
theorem replacement?_of_not_carries {request : Request} {token : String}
    (h : ¬ request.Carries token) : replacement? (some token) request.bearer = some token :=
  replacement?_eq_some_iff.mpr ⟨rfl, fun hbearer => h (Request.carries_of_bearer hbearer)⟩

variable {β : Type} {c : Console β} {request : Request} {scope : Scope} {response : Response}
  {token : String} {x : Exchange}

/-- Who finds a token that its rejected request does not carry sends the request again with it. -/
theorem Abides.decision (h : (failed request scope response).Abides)
    (hnew : response.status.code = 401 → ¬ request.Carries token)
    (haccess : c.store.session.access = some token) :
    decision c request scope response = .propagate ∨
      decision c request scope response = .replayWithCurrent token := by
  by_cases hcode : response.status.code = 401
  · obtain ⟨rfl, -, hrecoverable⟩ := h hcode
    right
    rw [Exchange.decision, FailureContext.decide_of_isRecoverable hrecoverable hcode, haccess,
      replacement?_of_not_carries (hnew hcode)]
  · exact Or.inl (FailureContext.decide_of_code_ne hcode _ _)

/-- **Steps of a request.** Who finds a token that its request does not carry leaves the session
alone. -/
theorem Abides.step [Backend β] (h : x.Abides) (hsound : x.IsSound)
    (hnew : ∀ request, x.rejected? = some request → ¬ request.Carries token)
    (haccess : c.store.session.access = some token) (now : Moment) (caller : Nat) :
    (c.stepExchange now caller x).1.Abides := by
  generalize hy : (c.stepExchange now caller x).1 = y
  cases stepsTo_of_stepExchange hy with
  | givesUp hdecision | recovers hdecision =>
    have hresent := h.decision (fun hcode => hnew _ (rejected?_failed_of_code hcode)) haccess
    rcases hresent with heq | heq <;> cases hdecision.symm.trans heq
  | replaced => exact fun _ => hsound
  | lost scope response hreplaced =>
    rw [haccess, replacement?_of_not_carries (hnew _ rfl)] at hreplaced
    cases hreplaced
  | _ => trivial

end Exchange

/-! ### Those who wait -/

/-- What one sends again who waits on account of a rejection, where the token of the new session is
not the one that was rejected. -/
structure Request.Resumable (token : String) (scope : Scope) (response : Response)
    (request replay : Request) : Prop where
  replay : request.replayWith? token = some replay
  calls : request.CallsForRenewal scope response
  new : ¬ request.Carries token

/-- What one who waits for the cycle has sent since, `n` steps away from sending its request again:
nothing, or what it sends again. -/
def sentSince (replay : Request) (n : Nat) : List Request := if n = 0 then [replay] else []

/-- Where one stands who waited for the cycle, and how many steps it is away from sending its
request again. -/
inductive Exchange.Resumes (id : CycleId) (request replay : Request) (scope : Scope)
    (response : Response) : Exchange → Nat → Prop
  | waiting : Resumes id request replay scope response (.waiting request scope response id) 4
  | reconsidering :
      Resumes id request replay scope response (.reconsidering request scope response) 3
  | looking : Resumes id request replay scope response (.failed request scope response) 2
  | replaying : Resumes id request replay scope response (.preparing replay scope []) 1
  | awaiting : Resumes id request replay scope response (.inFlight replay scope) 0
  | failed {last : Response} (hcode : last.status.code ≠ 401) :
      Resumes id request replay scope response (.failed replay scope last) 0
  | ended (result : Except ApiError Response) :
      Resumes id request replay scope response (.finished result) 0

namespace Exchange

variable {id : CycleId} {request replay : Request} {scope : Scope} {response : Response}
  {x : Exchange} {n : Nat}

theorem Resumes.answer (h : x.Resumes id request replay scope response n)
    {result : Except ApiError Response}
    (hresult : ∀ last, x = .inFlight replay scope → result = .ok last → last.status.code ≠ 401) :
    (x.answer result).Resumes id request replay scope response n := by
  cases h with
  | awaiting =>
    cases result with
    | error e => exact .ended (.error e)
    | ok last =>
      simp only [Exchange.answer]
      split
      · exact .ended (.ok last)
      · exact .failed (hresult last rfl rfl)
  | waiting => exact .waiting
  | reconsidering => exact .reconsidering
  | looking => exact .looking
  | replaying => exact .replaying
  | failed hcode => exact .failed hcode
  | ended told => exact .ended told

variable {β : Type} [Backend β] {c : Console β} {token : String}

/-- **Steps of a request.** Once the end of the cycle is told, each step brings the caller nearer to
sending its request again. -/
theorem Resumes.step (h : x.Resumes id request replay scope response n)
    (hrequest : request.Resumable token scope response replay)
    (haccess : c.store.session.access = some token)
    (htold : ∀ other, c.outcome? id ≠ some (.ok other)) (now : Moment) (caller : Nat) :
    ∃ n' ≤ n, ((c.outcome? id).isSome = true → n' ≤ n - 1) ∧
      (c.stepExchange now caller x).1.Resumes id request replay scope response n' ∧
      sentSince replay n' = sentSince replay n ++ (x.deed?.bind Deed.request?).toList := by
  obtain ⟨hreplay, hcalls, hnew⟩ := hrequest
  have hreplaced := replacement?_of_not_carries hnew
  cases h with
  | waiting =>
    simp only [Console.stepExchange]
    cases houtcome : c.outcome? id with
    | none => exact ⟨4, Nat.le_refl 4, by simp, .waiting, rfl⟩
    | some outcome =>
      cases outcome with
      | ok other => exact absurd houtcome (htold other)
      | error failure => exact ⟨3, by decide, fun _ => by decide, .reconsidering, rfl⟩
  | reconsidering =>
    have hget : c.store.get .access = c.store.session.access := rfl
    simp only [Console.stepExchange, hget, haccess, hreplaced]
    exact ⟨2, by decide, fun _ => by decide, .looking, rfl⟩
  | looking =>
    obtain ⟨rfl, hcode, hrecoverable⟩ := hcalls
    have hdecide := FailureContext.decide_of_isRecoverable hrecoverable hcode
      c.store.session.access c.store.session.refresh
    simp only [haccess, hreplaced] at hdecide
    simp only [Console.stepExchange, haccess, hdecide, decided, Exchange.replay, hreplay]
    exact ⟨1, by decide, fun _ => by decide, .replaying, rfl⟩
  | replaying => exact ⟨0, by decide, fun _ => by decide, .awaiting, rfl⟩
  | awaiting => exact ⟨0, Nat.le_refl 0, fun _ => Nat.le_refl 0, .awaiting, rfl⟩
  | failed hcode =>
    simp only [Console.stepExchange, FailureContext.decide_of_code_ne hcode, decided]
    exact ⟨0, Nat.le_refl 0, fun _ => Nat.le_refl 0, .ended _, rfl⟩
  | ended result => exact ⟨0, Nat.le_refl 0, fun _ => Nat.le_refl 0, .ended result, rfl⟩

/-- **Frame.** One who waited for the cycle sends its request again, and otherwise changes nothing
but where it stands. -/
theorem Resumes.frame (h : x.Resumes id request replay scope response n) (c : Console β)
    (now : Moment) (caller : Nat) :
    (c.stepExchange now caller x).2 = c ∨
      (c.stepExchange now caller x).2 = c.transmit (.caller caller) replay := by
  rw [Console.stepExchange_snd]
  cases h with
  | replaying => exact Or.inr rfl
  | _ => exact Or.inl rfl

end Exchange

/-- Where a caller stands that waited for the cycle, how many steps it is away from sending its
request again, and what it has sent since. -/
inductive Activity.Resumes (id : CycleId) (request replay : Request) (scope : Scope)
    (response : Response) : Activity → Nat → List Request → Prop
  | within (goal : Goal) {x : Exchange} {n : Nat}
      (hx : x.Resumes id request replay scope response n) :
      Resumes id request replay scope response (.exchange goal x) n (sentSince replay n)
  | past {a : Activity} (ha : a.isPast = true) :
      Resumes id request replay scope response a 0 [replay]
  | gone (n : Nat) {sent : List Request} (hsent : sent = [] ∨ sent = [replay]) :
      Resumes id request replay scope response .cancelled n sent

theorem Activity.Resumes.sent_eq {id : CycleId} {request replay : Request} {scope : Scope}
    {response : Response} {a : Activity} {n : Nat} {sent : List Request}
    (h : a.Resumes id request replay scope response n sent) : sent = [] ∨ sent = [replay] := by
  cases h with
  | within goal hx =>
    unfold sentSince
    split
    · exact Or.inr rfl
    · exact Or.inl rfl
  | past hpast => exact Or.inr rfl
  | gone n hsent => exact hsent

namespace Console

variable {β : Type} {c₀ c d : Console β} {id : CycleId} {caller : Nat} {request replay : Request}
  {scope : Scope} {response : Response} {token used : String} {n : Nat}

/-- A caller that waited for the cycle at `c₀`, and how many steps it is away from sending its
request again. -/
def Resumes (c₀ : Console β) (id : CycleId) (caller : Nat) (request replay : Request)
    (scope : Scope) (response : Response) (n : Nat) (c : Console β) : Prop :=
  ∃ a sent, c.callers[caller]? = some a ∧ a.Resumes id request replay scope response n sent ∧
    c.sentBy caller = c₀.sentBy caller ++ sent

theorem Resumes.sentBy (h : Resumes c₀ id caller request replay scope response n c) :
    c.sentBy caller = c₀.sentBy caller ∨ c.sentBy caller = c₀.sentBy caller ++ [replay] := by
  obtain ⟨a, sent, -, hresumes, hsent⟩ := h
  rcases hresumes.sent_eq with rfl | rfl
  · exact Or.inl (hsent.trans (List.append_nil _))
  · exact Or.inr hsent

/-- One who has no step left to take has sent its request again. -/
theorem Resumes.sentBy_of_zero (h : Resumes c₀ id caller request replay scope response 0 c)
    (hthere : c.callers[caller]? ≠ some .cancelled) :
    c.sentBy caller = c₀.sentBy caller ++ [replay] := by
  obtain ⟨a, sent, ha, hresumes, hsent⟩ := h
  cases hresumes with
  | within goal hx => exact hsent
  | past hpast => exact hsent
  | gone n hsent' => exact absurd ha hthere

theorem Resumes.sentBy_of_over (h : Resumes c₀ id caller request replay scope response n c)
    {a : Activity} (ha : c.callers[caller]? = some a) (hthere : a ≠ .cancelled)
    (hover : ∀ goal x, a = .exchange goal x → ∃ result, x = .finished result) :
    c.sentBy caller = c₀.sentBy caller ++ [replay] := by
  obtain ⟨a', sent, ha', hresumes, hsent⟩ := h
  obtain rfl : a = a' := Option.some_inj.mp (ha.symm.trans ha')
  cases hresumes with
  | @within goal x n hx =>
    obtain ⟨result, rfl⟩ := hover goal x rfl
    cases hx
    exact hsent
  | past hpast => exact hsent
  | gone n hsent' => exact absurd rfl hthere

/-- The caller waits for the cycle with a request. -/
def WaitsWith (id : CycleId) (caller : Nat) (request : Request) (scope : Scope)
    (response : Response) (c : Console β) : Prop :=
  ∃ goal, c.callers[caller]? = some (.exchange goal (.waiting request scope response id))

/-- The caller is about to act on a rejection. -/
def ActsOnRejection (caller : Nat) (c : Console β) : Prop :=
  ∃ goal x, c.callers[caller]? = some (.exchange goal x) ∧ x.actsOnRejection = true

/-- What may happen after the sign-in at `c₀`. Nobody says what is in the session any more, that is,
what writes it is a cycle, or a caller on account of its request: no caller signs in or out or
writes it. And no request is rejected but one that does not carry the new token, of a caller that
has waited for the cycle. -/
structure Undisturbed (id : CycleId) (token : String) (c₀ c : Console β) (e : Event) : Prop where
  writes : ∀ w, c.write? e = some w → w.sparesSession = true ∨ (∃ j, e = .advanceCycle j) ∨
    ∃ k goal x, e = .advance k ∧ c.callers[k]? = some (.exchange goal x)
  rejects : ∀ k rejected, c.Rejects e k rejected →
    ¬ rejected.Carries token ∧ ∃ request scope response, c₀.WaitsWith id k request scope response

/-- The event brings no answer, and what it writes is written by a cycle or on account of a
request. -/
def isQuiet (e : Event) (c : Console β) : Bool :=
  !e.bringsAnswer &&
    match e with
    | .advance k =>
      match c.callers[k]? with
      | some (.exchange _ _) => true
      | _ => (c.write? (.advance k)).isNone
    | .start _ | .answer _ _ | .cancel _ | .advanceCycle _ | .answerCycle _ _ | .killCycle _ => true

/-- All events of the run are such. -/
def runsQuietly [Backend β] (c : Console β) : List (Moment × Event) → Bool
  | [] => true
  | (now, e) :: rest => c.isQuiet e && (c.step now e).runsQuietly rest

theorem undisturbed_of_isQuiet {e : Event} (h : c.isQuiet e = true) :
    Undisturbed id token c₀ c e := by
  obtain ⟨hanswer, hquiet⟩ := Bool.and_eq_true_iff.mp h
  refine ⟨fun w hw => Or.inr ?_, fun k request hrejects =>
    absurd hrejects (not_rejects_of_not_bringsAnswer (by simpa using hanswer) k request)⟩
  cases e with
  | advanceCycle j => exact Or.inl ⟨j, rfl⟩
  | advance k =>
    simp only at hquiet
    split at hquiet
    next goal x hx => exact Or.inr ⟨k, goal, x, rfl, hx⟩
    next => rw [hw] at hquiet; cases hquiet
  | _ => cases hw

theorem obeys_undisturbed [Backend β] {s : List (Moment × Event)} (h : c.runsQuietly s = true) :
    Obeys (Undisturbed id token c₀) c s := by
  induction s generalizing c with
  | nil => trivial
  | cons y rest ih =>
    rw [runsQuietly, Bool.and_eq_true] at h
    exact ⟨undisturbed_of_isQuiet h.1, ih h.2⟩

/-- What may nevertheless write the session that was installed at `c₀`, before everybody has gone
on: a renewal of this very session, by a cycle that was started since; and a caller that was about
to act on a rejection already, and gives up the session. -/
inductive Overtakes (c₀ c : Console β) : Event → Prop
  | renewal {k : CycleId} {used : String} {tokens : Except RenewalFailure RenewedTokens}
      (hnew : c₀.cycles.length ≤ k) (hk : c.cycles[k]? = some ⟨used, .answered tokens⟩)
      (hused : c.store.session.refresh = some used) : Overtakes c₀ c (.advanceCycle k)
  | rejection {k : Nat} {goal : Goal} {request : Request} {said : String}
      (hacts : c₀.ActsOnRejection k)
      (hk : c.callers[k]? = some (.exchange goal (.clearing request said))) :
      Overtakes c₀ c (.advance k)

/-- The session that was installed at `c` is overtaken in the run. -/
def Overtaken (c : Console β) [Backend β] (s : List (Moment × Event)) : Prop :=
  ∃ s₁ now e s₂, s = s₁ ++ (now, e) :: s₂ ∧ c.Overtakes (c.run s₁) e

/-- It takes a step of such a cycle or such a caller. -/
theorem not_overtaken [Backend β] {s : List (Moment × Event)}
    (hcycles : ∀ now k, (now, Event.advanceCycle k) ∈ s → k < c.cycles.length)
    (hcallers : ∀ now k, (now, Event.advance k) ∈ s → ¬ c.ActsOnRejection k) :
    ¬ c.Overtaken s := by
  rintro ⟨s₁, now, e, s₂, rfl, hovertakes⟩
  have hmem : (now, e) ∈ s₁ ++ (now, e) :: s₂ := List.mem_append_right _ List.mem_cons_self
  cases hovertakes with
  | renewal hnew hk hused => exact absurd (hcycles now _ hmem) (Nat.not_lt.mpr hnew)
  | rejection hacts hk => exact hcallers now _ hmem hacts

/-! ### Runs after a sign-in -/

/-- A session with this access token was installed before the cycle of an older one has written the
store. -/
structure Superseded (id : CycleId) (used token : String) (c : Console β) : Prop where
  cycle : ∃ stage, c.cycles[id]? = some ⟨used, stage⟩ ∧ stage.hasWritten = false
  access : c.store.session.access = some token
  refresh : c.store.session.refresh ≠ some used
  valid : HeaderValue.isValid token = true

/-- A run that has come as far as `c` from `c₀`, where a session was installed. -/
structure Keeping (id : CycleId) (used token : String) (c₀ c : Console β) : Prop where
  session : c.store.session = c₀.store.session
  barren : c.Barren id used
  elders : ∀ k < c₀.cycles.length, k ≠ id → c.Settled k
  sound : c.Sound
  unrejected : c.Unrejected (Request.Carries · token)
  abides : ∀ (k : Nat) (goal : Goal) (x : Exchange),
    c.callers[k]? = some (.exchange goal x) → x.Abides ∨ c₀.ActsOnRejection k
  resumes : ∀ k request scope response, c₀.WaitsWith id k request scope response →
    ∃ replay, request.Resumable token scope response replay ∧
      ∃ n, Resumes c₀ id k request replay scope response n c

/-- Who waits for the cycle is four steps away from sending its request again. -/
theorem WaitsWith.resumes (h : c.WaitsWith id caller request scope response)
    (hvalid : HeaderValue.isValid token = true) (hsound : c.Sound)
    (hunrejected : c.Unrejected (Request.Carries · token)) :
    ∃ replay, request.Resumable token scope response replay ∧
      Resumes c id caller request replay scope response 4 c := by
  obtain ⟨goal, hcaller⟩ := h
  obtain ⟨replay, hreplay, -⟩ := request.exists_replayWith? hvalid
  exact ⟨replay, ⟨hreplay, hsound _ (List.mem_of_getElem? hcaller),
    hunrejected caller goal _ request hcaller rfl⟩, _, _, hcaller, .within goal .waiting,
    (List.append_nil _).symm⟩

/-- What waits is there. -/
theorem Keeping.lt_length (h : c₀.Keeping id used token c)
    (hwaits : c₀.WaitsWith id caller request scope response) : caller < c.callers.length := by
  obtain ⟨replay, -, n, a, _, ha, -⟩ := h.resumes _ _ _ _ hwaits
  exact (List.getElem?_eq_some_iff.mp ha).1

/-- What one who has waited for the cycle sends carries the new token. -/
theorem Keeping.carries_of_inFlight (h : c₀.Keeping id used token c) {goal : Goal} {sent : Request}
    {scope' : Scope} (hwaits : c₀.WaitsWith id caller request scope response)
    (hcaller : c.callers[caller]? = some (.exchange goal (.inFlight sent scope'))) :
    sent.Carries token := by
  obtain ⟨replay, hrequest, n, a, _, ha, hresumes, -⟩ := h.resumes _ _ _ _ hwaits
  obtain rfl : a = .exchange goal (.inFlight sent scope') :=
    Option.some_inj.mp (ha.symm.trans hcaller)
  cases hresumes with
  | within _ hx =>
    cases hx
    exact Request.carries_of_replayWith? hrequest.replay
  | past hpast => cases hpast

/-- Nobody is rejected after the sign-in. -/
theorem Keeping.not_rejects (h : c₀.Keeping id used token c) {e : Event}
    (he : Undisturbed id token c₀ c e) (k : Nat) (rejected : Request) :
    ¬ c.Rejects e k rejected := by
  intro hrejects
  obtain ⟨hnew, request, scope, response, hwaits⟩ := he.rejects k rejected hrejects
  cases hrejects with
  | answered hcaller hcode => exact hnew (h.carries_of_inFlight hwaits hcaller)
  | reported _ _ hcode => exact absurd (h.lt_length hwaits) (Nat.lt_irrefl _)

variable [Backend β]

theorem Superseded.keeping (h : c.Superseded id used token) (hreachable : c.Reachable)
    (hunrejected : c.Unrejected (Request.Carries · token)) : c.Keeping id used token c where
  session := rfl
  barren := by
    obtain ⟨stage, hid, hstage⟩ := h.cycle
    exact ⟨stage, hid, CycleStage.hasInstalled_of_not_written hstage⟩
  elders k hk hne := by
    obtain ⟨stage, hid, hstage⟩ := h.cycle
    have hslot := hreachable.singleFlight.slot
    have hunsettled : stage.isUnsettled = true := by
      refine eq_true_of_ne_false fun hsettled => ?_
      rw [CycleStage.hasWritten_of_settled hsettled] at hstage
      cases hstage
    have hpending := (hslot id).mpr ⟨_, hid, hunsettled⟩
    refine (settled_or_unsettled hk).resolve_left fun hk => hne ?_
    exact Option.some_inj.mp (((hslot k).mpr hk).symm.trans hpending)
  sound := hreachable.sound
  unrejected := hunrejected
  abides k goal x hx := by
    cases hacts : x.actsOnRejection with
    | false => exact Or.inl (Exchange.abides_of_not_actsOnRejection hacts)
    | true => exact Or.inr ⟨goal, x, hx, hacts⟩
  resumes k request scope response hwaits := by
    obtain ⟨replay, hrequest, hresumes⟩ := hwaits.resumes h.valid hreachable.sound hunrejected
    exact ⟨replay, hrequest, 4, hresumes⟩

/-- **Steps of a caller.** Once the end of the cycle is told, each step brings the caller nearer to
sending its request again. -/
theorem resumes_stepActivity {a : Activity} {sent : List Request}
    (h : a.Resumes id request replay scope response n sent)
    (hrequest : request.Resumable token scope response replay)
    (haccess : c.store.session.access = some token)
    (htold : ∀ other, c.outcome? id ≠ some (.ok other)) (now : Moment) :
    ∃ n' ≤ n, ((c.outcome? id).isSome = true → n' ≤ n - 1) ∧
      (c.stepActivity now caller a).1.Resumes id request replay scope response n'
        (sent ++ (a.deed?.bind Deed.request?).toList) := by
  cases h with
  | @within goal x n hx =>
    by_cases hover : ∃ result, x = .finished result
    · obtain ⟨result, rfl⟩ := hover
      cases hx
      exact ⟨0, Nat.le_refl 0, fun _ => Nat.le_refl 0, .past (Activity.isPast_next goal result)⟩
    · obtain ⟨n', hle, hnearer, hx', hsince⟩ := hx.step hrequest haccess htold now caller
      refine ⟨n', hle, hnearer, ?_⟩
      rw [stepActivity_exchange now caller goal c (not_exists.mp hover)]
      exact hsince ▸ .within goal hx'
  | past hpast =>
    rw [Activity.deed?_of_isPast hpast]
    exact ⟨0, Nat.le_refl 0, fun _ => Nat.le_refl 0,
      .past (Activity.isPast_stepActivity hpast now caller c)⟩
  | gone n hsent =>
    exact ⟨n - 1, Nat.sub_le n 1, fun _ => Nat.le_refl _,
      .gone (n - 1) ((List.append_nil sent).symm ▸ hsent)⟩

theorem Resumes.next (h : Resumes c₀ id caller request replay scope response n c)
    (hrequest : request.Resumable token scope response replay)
    (haccess : c.store.session.access = some token)
    (htold : ∀ other, c.outcome? id ≠ some (.ok other)) {e : Event}
    (he : c.Spares (Request.Carries · token) e) (now : Moment) :
    ∃ n' ≤ n, ((c.outcome? id).isSome = true → e = .advance caller → n' ≤ n - 1) ∧
      Resumes c₀ id caller request replay scope response n' (c.step now e) := by
  obtain ⟨a, sent, ha, hresumes, hsent⟩ := h
  obtain ⟨b, hb, hmove⟩ := exists_onward ha now e
  have hlog := sentBy_step now e caller c
  cases hmove with
  | stayed hne hdeed =>
    rw [hdeed] at hlog
    exact ⟨n, Nat.le_refl n, fun _ hself => absurd hself hne, a, sent, hb, hresumes,
      hlog.trans ((List.append_nil _).trans hsent)⟩
  | stepped hself =>
    subst hself
    rw [deed?_advance ha, hsent, List.append_assoc] at hlog
    obtain ⟨n', hle, hnearer, hnext⟩ :=
      resumes_stepActivity hresumes hrequest haccess htold now
    exact ⟨n', hle, fun htold _ => hnearer htold, _, _, hb, hnext, hlog⟩
  | @answered goal x result hself =>
    subst hself
    rw [deed?_answer ha, hsent, List.append_assoc] at hlog
    have hnone : (x.answered? result).bind Deed.request? = none := by cases x <;> rfl
    rw [hnone] at hlog
    cases hresumes with
    | within _ hx =>
      refine ⟨n, Nat.le_refl n, by simp, _, _, hb, .within goal (hx.answer ?_),
        hlog.trans (congrArg (_ ++ ·) (List.append_nil _))⟩
      -- what is sent again carries the new token
      rintro last rfl rfl hcode
      exact he caller replay (.answered ha hcode) (Request.carries_of_replayWith? hrequest.replay)
    | past hpast => cases hpast
  | left hself =>
    subst hself
    exact ⟨n, Nat.le_refl n, by simp, _, sent, hb, .gone n hresumes.sent_eq,
      hlog.trans ((List.append_nil _).trans hsent)⟩

/-- Who is about to act on a rejection was so when the session was installed. -/
theorem Keeping.abides_step (h : c₀.Keeping id used token c) (h₀ : c₀.Superseded id used token)
    {e : Event} (he : Undisturbed id token c₀ c e) {now : Moment} {k : Nat} {goal : Goal}
    {x : Exchange} (hx : (c.step now e).callers[k]? = some (.exchange goal x)) :
    x.Abides ∨ c₀.ActsOnRejection k := by
  cases movedRequest_of_getElem? hx with
  | fresh request => exact Or.inl trivial
  | reported request scope response hop hnew =>
    refine Or.inl fun hcode => ?_
    subst hop
    exact absurd (.reported request scope hcode) (h.not_rejects he _ _)
  | stayed hx hne => exact h.abides k goal x hx
  | @stepped x' hx' hself =>
    have haccess : c.store.session.access = some token := h.session ▸ h₀.access
    exact (h.abides k goal x' hx').imp_left fun hbefore =>
      hbefore.step (h.sound _ (List.mem_of_getElem? hx'))
        (fun request => h.unrejected k goal x' request hx') haccess now k
  | @answered x' result hx' hself =>
    have hbefore := h.abides k goal x' hx'
    subst hself
    cases x' with
    | inFlight request scope =>
      cases result with
      | error e => exact Or.inl trivial
      | ok response =>
        simp only [Exchange.answer]
        split
        · exact Or.inl trivial
        · exact Or.inl fun hcode => absurd (.answered hx' hcode) (h.not_rejects he _ _)
    | _ => exact hbefore

/-- Nobody starts a cycle but by looking for one, and whoever looks for one on account of a request
without the token that is in the store is given that token, or waits for a cycle. -/
theorem cycles_advance_of_unrejected {goal : Goal} {x : Exchange}
    (hx : c.callers[caller]? = some (.exchange goal x))
    (hnew : ∀ request, x.rejected? = some request → ¬ request.Carries token)
    (haccess : c.store.session.access = some token) (now : Moment) :
    (c.step now (.advance caller)).cycles = c.cycles := by
  rw [step, advance_of_getElem? hx, stepActivity_snd]
  cases x with
  | joining request scope response =>
    have hreplaced : replacement? c.store.session.access request.bearer = some token := by
      rw [haccess]
      exact Exchange.replacement?_of_not_carries (hnew request rfl)
    have hjoined : (c.joinOrStart request.bearer).2 = c := by
      cases hslot : c.pending with
      | some pending => rw [joinOrStart_of_pending hslot]
      | none => rw [joinOrStart_of_replaced hslot hreplaced]
    change (c.joinOrStart request.bearer).2.cycles = c.cycles
    rw [hjoined]
  | preparing request scope todo => cases todo <;> rfl
  | _ => rfl

/-- The cycle finds that its refresh token is not there any more. -/
theorem Keeping.store_advanceCycle (h : c₀.Keeping id used token c)
    (h₀ : c₀.Superseded id used token) (now : Moment) :
    (c.advanceCycle now id).store = c.store := by
  obtain ⟨stage, hid, -⟩ := h.barren
  refine (advanceCycle_of_not_holds hid (Bool.eq_false_iff.mpr fun hholds => ?_) now).1
  exact h₀.refresh (h.session ▸ Store.holds_iff.mp hholds)

/-- A cycle other than this one writes nothing, unless it was started since and has the refresh
token that is in the store. -/
theorem Keeping.store_advanceCycle_of_ne (h : c₀.Keeping id used token c) {j : CycleId}
    (hj : j ≠ id) (hkept : ¬ c₀.Overtakes c (.advanceCycle j)) (now : Moment) :
    (c.step now (.advanceCycle j)).store = c.store := by
  cases hget : c.cycles[j]? with
  | none => rw [step, advanceCycle_of_getElem?_none hget]
  | some cycle =>
    obtain ⟨renewing, stage⟩ := cycle
    cases stage with
    | answered tokens =>
      by_cases hnew : c₀.cycles.length ≤ j
      · refine (advanceCycle_of_not_holds hget (Bool.eq_false_iff.mpr fun hholds => ?_) now).1
        exact hkept (.renewal hnew hget (Store.holds_iff.mp hholds))
      · -- those that were started before have settled
        obtain ⟨cycle, hcycle, hsettled⟩ := h.elders j (Nat.lt_of_not_le hnew) hj
        obtain rfl : ⟨renewing, .answered tokens⟩ = cycle :=
          Option.some_inj.mp (hget.symm.trans hcycle)
        cases hsettled
    | _ => exact store_step_of_no_write (by rw [write?, hget]; rfl) now

/-- **The session.** Nobody writes it, unless the event overtakes it. -/
theorem Keeping.session_step (h : c₀.Keeping id used token c) (h₀ : c₀.Superseded id used token)
    {e : Event} (he : Undisturbed id token c₀ c e) (hkept : ¬ c₀.Overtakes c e) (now : Moment) :
    (c.step now e).store.session = c.store.session := by
  cases hw : c.write? e with
  | none => rw [store_step_of_no_write hw]
  | some w =>
    rcases he.writes w hw with hspares | ⟨j, rfl⟩ | ⟨k, goal, x, rfl, hx⟩
    · rw [store_step, hw]
      exact c.store.session_apply_of_spares now w hspares
    · by_cases hj : j = id
      · subst hj
        exact congrArg Store.session (h.store_advanceCycle h₀ now)
      · exact congrArg Store.session (h.store_advanceCycle_of_ne hj hkept now)
    · -- a request drops the selected peer or clears the session
      have hwrite := hw
      rw [write?, hx] at hw
      rw [store_step, hwrite]
      cases x with
      | droppingPeer e =>
        cases hw
        rfl
      | clearing request said =>
        rcases h.abides k goal _ hx with habides | hacts
        · exact habides.elim
        · exact absurd (.rejection hacts hx) hkept
      | _ => cases hw

/-- One who has waited for the cycle is not taken back. -/
theorem Keeping.resumes_step (h : c₀.Keeping id used token c)
    (h₀ : c₀.Superseded id used token) {e : Event} (he : Undisturbed id token c₀ c e)
    (hrequest : request.Resumable token scope response replay)
    (hresumes : Resumes d id caller request replay scope response n c) (now : Moment) :
    ∃ n' ≤ n, ((c.outcome? id).isSome = true → e = .advance caller → n' ≤ n - 1) ∧
      Resumes d id caller request replay scope response n' (c.step now e) :=
  hresumes.next hrequest (h.session ▸ h₀.access) h.barren.outcome?_ne
    (fun k rejected hrejects => (he.rejects k rejected hrejects).1) now

/-- **Steps of a run.** -/
theorem Keeping.step (h : c₀.Keeping id used token c) (h₀ : c₀.Superseded id used token)
    {e : Event} (he : Undisturbed id token c₀ c e) (hkept : ¬ c₀.Overtakes c e) (now : Moment) :
    c₀.Keeping id used token (c.step now e) where
  session := (h.session_step h₀ he hkept now).trans h.session
  barren := h.barren.step (h.session ▸ h₀.refresh) now e
  elders k hk hne := (h.elders k hk hne).step now e
  sound := h.sound.step now e
  unrejected :=
    h.unrejected.step (fun k rejected hrejects => (he.rejects k rejected hrejects).1) now
  abides k goal x hx := h.abides_step h₀ he hx
  resumes k request scope response hwaits := by
    obtain ⟨replay, hrequest, n, hresumes⟩ := h.resumes _ _ _ _ hwaits
    obtain ⟨n', -, -, hnext⟩ := h.resumes_step h₀ he hrequest hresumes now
    exact ⟨replay, hrequest, n', hnext⟩

/-- The events of a run in which the session that was installed at `c₀` is not overtaken. -/
def Leaves (id : CycleId) (token : String) (c₀ c : Console β) (e : Event) : Prop :=
  Undisturbed id token c₀ c e ∧ ¬ c₀.Overtakes c e

theorem obeys_leaves_or_overtaken {s : List (Moment × Event)}
    (hs : Obeys (Undisturbed id token c) c s) :
    Obeys (Leaves id token c) c s ∨ c.Overtaken s := by
  refine (obeys_or_exists (Leaves id token c) c s).imp_right ?_
  rintro ⟨s₁, now, e, s₂, rfl, hnot⟩
  have he : Undisturbed id token c (c.run s₁) e := (obeys_append.mp hs).2.1
  exact ⟨s₁, now, e, s₂, rfl, Classical.not_not.mp fun hkept => hnot ⟨he, hkept⟩⟩

theorem Keeping.run (h : c₀.Keeping id used token c) (h₀ : c₀.Superseded id used token)
    {s : List (Moment × Event)} (hs : Obeys (Leaves id token c₀) c s) :
    c₀.Keeping id used token (c.run s) :=
  run_induction (fun _ now _ hc he => hc.step h₀ he.1 he.2 now) h hs

/-- Once the end of the cycle is told, one who waited for it comes nearer to sending its request
again with each step of its own, whatever the others do in between. -/
theorem Keeping.resumes_run (h : c₀.Keeping id used token c) (h₀ : c₀.Superseded id used token)
    (hrequest : request.Resumable token scope response replay)
    (hresumes : Resumes d id caller request replay scope response n c)
    {s : List (Moment × Event)} (hs : Obeys (Leaves id token c₀) c s) :
    ∃ n' ≤ n, ((c.outcome? id).isSome = true →
        n' ≤ n - s.countP (fun y => y.2.isStepOf caller)) ∧
      Resumes d id caller request replay scope response n' (c.run s) := by
  induction s generalizing c n with
  | nil => exact ⟨n, Nat.le_refl n, fun _ => Nat.le_refl n, hresumes⟩
  | cons y rest ih =>
    obtain ⟨now, e⟩ := y
    obtain ⟨he, hkept⟩ := hs.1
    obtain ⟨n₁, hle, hnearer, hnext⟩ := h.resumes_step h₀ he hrequest hresumes now
    obtain ⟨n', hle', hnearer', hrest⟩ := ih (h.step h₀ he hkept now) hnext hs.2
    refine ⟨n', Nat.le_trans hle' hle, fun htold => ?_, hrest⟩
    obtain ⟨outcome, houtcome⟩ := Option.isSome_iff_exists.mp htold
    have hrest' := hnearer' (Option.isSome_of_eq_some (outcome?_step houtcome now e))
    rw [List.countP_cons]
    by_cases hself : e = .advance caller
    · have hstep := hnearer htold hself
      rw [if_pos (Event.isStepOf_iff.mpr hself)]
      omega
    · rw [Event.isStepOf_of_ne hself]
      simp only [Bool.false_eq_true, if_false]
      omega

/-! ### What becomes of the session and of those who waited -/

/-- What there is to say of a caller that waits for the cycle at `c` and has this to send again, in
a run that starts at `c`. -/
structure SendsAgain (id : CycleId) (caller : Nat) (replay : Request) (c : Console β)
    (s : List (Moment × Event)) : Prop where
  /-- The request is sent again once at most, and nothing else is sent. -/
  sends : (c.run s).sentBy caller = c.sentBy caller ∨
    (c.run s).sentBy caller = c.sentBy caller ++ [replay]
  /-- While the request is under way, the next step of the caller sends it again or changes nothing
  but where the caller stands: no cycle is started, no store is written, and nobody is sent to the
  login page. -/
  step : ∀ goal x now, (c.run s).callers[caller]? = some (.exchange goal x) →
    let d := c.run s
    let d' := d.step now (.advance caller)
    d' = { d with callers := d'.callers } ∨
      d' = { d.transmit (.caller caller) replay with callers := d'.callers }
  /-- Once the request is over, it was sent again, unless the caller has gone away. -/
  ended : ∀ a, (c.run s).callers[caller]? = some a → a ≠ .cancelled →
    (∀ goal x, a = .exchange goal x → ∃ result, x = .finished result) →
    (c.run s).sentBy caller = c.sentBy caller ++ [replay]
  /-- Four steps after the end of the cycle is told, it was sent again, whatever the others do in
  between, unless the caller has gone away. -/
  goesOn : ∀ s₁ s₂ outcome, s = s₁ ++ s₂ → (c.run s₁).outcome? id = some outcome →
    4 ≤ s₂.countP (fun y => y.2.isStepOf caller) →
    (c.run s).callers[caller]? ≠ some .cancelled →
    (c.run s).sentBy caller = c.sentBy caller ++ [replay]

/-- What there is to say of a session that is installed at `c` while a cycle of an older one is
under way, in a run that starts at `c`. -/
structure KeepsSession (id : CycleId) (token : String) (c : Console β)
    (s : List (Moment × Event)) : Prop where
  session : (c.run s).store.session = c.store.session
  /-- A step of the cycle leaves the store as it is. -/
  settles : ∀ now, ((c.run s).advanceCycle now id).store = (c.run s).store
  /-- The cycle has no token to tell. -/
  told : ∀ other, (c.run s).outcome? id ≠ some (.ok other)
  /-- No request starts another cycle. -/
  cycles : ∀ k goal x now, (c.run s).callers[k]? = some (.exchange goal x) →
    ((c.run s).step now (.advance k)).cycles = (c.run s).cycles
  /-- Whoever waits for the cycle, then or later, sends its request again with the new token. -/
  sendsAgain : ∀ s₁ s₂, s = s₁ ++ s₂ → ∀ k request scope response,
    (c.run s₁).WaitsWith id k request scope response →
      ∃ replay, request.replayWith? token = some replay ∧ (c.run s₁).SendsAgain id k replay s₂

theorem Resumes.frame (h : Resumes c₀ id caller request replay scope response n c) {goal : Goal}
    {x : Exchange} (hx : c.callers[caller]? = some (.exchange goal x)) (now : Moment) :
    let d := c.step now (.advance caller)
    d = { c with callers := d.callers } ∨
      d = { c.transmit (.caller caller) replay with callers := d.callers } := by
  obtain ⟨a, sent, ha, hresumes, -⟩ := h
  obtain rfl : a = .exchange goal x := Option.some_inj.mp (ha.symm.trans hx)
  intro d
  have hd : d = { (c.stepActivity now caller (.exchange goal x)).2 with callers := d.callers } := by
    have hadvance : d = _ := advance_of_getElem? hx
    rw [hadvance]
  by_cases hover : ∃ result, x = .finished result
  · obtain ⟨result, rfl⟩ := hover
    exact Or.inl hd
  · rw [stepActivity_exchange now caller goal c (not_exists.mp hover)] at hd
    cases hresumes with
    | within _ hx' =>
      rcases hx'.frame c now caller with hsame | hsends
      · exact Or.inl (hd.trans (by rw [hsame]))
      · exact Or.inr (hd.trans (by rw [hsends]))
    | past hpast => cases hpast

theorem Keeping.sendsAgain (h : c₀.Keeping id used token c) (h₀ : c₀.Superseded id used token)
    (hwaits : c.WaitsWith id caller request scope response) {s : List (Moment × Event)}
    (hs : Obeys (Leaves id token c₀) c s) :
    ∃ replay, request.replayWith? token = some replay ∧ c.SendsAgain id caller replay s := by
  obtain ⟨replay, hrequest, hstart⟩ := hwaits.resumes h₀.valid h.sound h.unrejected
  obtain ⟨n, -, -, hresumes⟩ := h.resumes_run h₀ hrequest hstart hs
  refine ⟨replay, hrequest.replay, hresumes.sentBy, fun goal x now hx => hresumes.frame hx now,
    fun a ha hthere hover => hresumes.sentBy_of_over ha hthere hover,
    fun s₁ s₂ outcome hsplit htold hsteps hthere => ?_⟩
  subst hsplit
  obtain ⟨hs₁, hs₂⟩ := obeys_append.mp hs
  obtain ⟨m, hm, -, hmidway⟩ := h.resumes_run h₀ hrequest hstart hs₁
  obtain ⟨m', -, hnearer, hend⟩ := (h.run h₀ hs₁).resumes_run h₀ hrequest hmidway hs₂
  obtain rfl : m' = 0 := by
    have hle := hnearer (Option.isSome_of_eq_some htold)
    omega
  rw [run_append] at hthere ⊢
  exact hend.sentBy_of_zero hthere

theorem Keeping.keepsSession (h : c.Keeping id used token c) (h₀ : c.Superseded id used token)
    {s : List (Moment × Event)} (hs : Obeys (Leaves id token c) c s) :
    c.KeepsSession id token s := by
  have hkept := h.run h₀ hs
  refine ⟨hkept.session, hkept.store_advanceCycle h₀, hkept.barren.outcome?_ne,
    fun k goal x now hx => ?_, fun s₁ s₂ hsplit k request scope response hwaits => ?_⟩
  · exact cycles_advance_of_unrejected hx (fun request => hkept.unrejected k goal x request hx)
      (hkept.session ▸ h₀.access) now
  · subst hsplit
    obtain ⟨hs₁, hs₂⟩ := obeys_append.mp hs
    exact (h.run h₀ hs₁).sendsAgain h₀ hwaits hs₂

/-- **Signing in while a renewal is under way.** A cycle has not written the store yet when a
session with another refresh token is installed, nobody says afterwards what is in the session, and
the server rejects neither a request with the new access token nor, from then on, one of a caller
that does not wait for the cycle. Then the session stays as it was installed, whatever the renewal
comes to, and every caller that waits for the cycle sends its request again with the new token:
once, after four steps at most, and without doing anything else to what is shared. Or else the
session is overtaken on the way, by a renewal of its own or by a caller that was about to give up
the session before. -/
theorem sign_in_kept {routes : RouteTable} {store : Store β} {before after : List (Moment × Event)}
    (hc : c = (opened routes store : Console β).run before)
    (hbefore : Obeys (Spares (Request.Carries · token)) (opened routes store) before)
    (hinstalled : c.Superseded id used token) (hafter : Obeys (Undisturbed id token c) c after) :
    c.KeepsSession id token after ∨ c.Overtaken after := by
  have hreachable : c.Reachable := ⟨routes, store, before, hc⟩
  have hunrejected : c.Unrejected (Request.Carries · token) :=
    hc ▸ unrejected_run_opened routes store hbefore
  exact (obeys_leaves_or_overtaken hafter).imp_left fun hleaves =>
    (hinstalled.keeping hreachable hunrejected).keepsSession hinstalled hleaves

/-- A request is rejected, a renewal is under way, and somebody signs in. -/
def signingInAnew : List (Moment × Event) :=
  [ .start (.send .listing), .advance 0, .advance 0, .answer 0 (.ok .expired), .advance 0,
    .advance 0, .advanceCycle 0,
    .start (.write (.setSession ⟨some "B1", some "R9"⟩)), .advance 1 ].map (default, ·)

/-- The request of which `signingInAnew` tells. -/
def listed : Request := Request.listing.withAuthorization "Bearer A1"

theorem obeys_signingInAnew :
    Obeys (Spares (Request.Carries · "B1")) guarded signingInAnew := by
  refine ⟨spares_of_not_bringsAnswer rfl, spares_of_not_bringsAnswer rfl,
    spares_of_not_bringsAnswer rfl, ?_, spares_of_not_bringsAnswer rfl,
    spares_of_not_bringsAnswer rfl, spares_of_not_bringsAnswer rfl, spares_of_not_bringsAnswer rfl,
    spares_of_not_bringsAnswer rfl, trivial⟩
  have hinFlight : (guarded.run (signingInAnew.take 3)).callers[0]? =
      some (.exchange .response (.inFlight listed .primary)) := rfl
  rintro k request (⟨hanswered, -⟩ | -)
  cases hinFlight.symm.trans hanswered
  decide

theorem superseded_signingInAnew : (guarded.run signingInAnew).Superseded 0 "R1" "B1" where
  cycle := ⟨.inFlight, rfl, rfl⟩
  access := rfl
  refresh := by decide
  valid := by decide

theorem waitsWith_signingInAnew :
    (guarded.run signingInAnew).WaitsWith 0 0 listed .primary .expired := ⟨.response, rfl⟩

/-- Neither the cycle that is under way nor the caller that waits for it overtakes the new
session. -/
theorem not_overtaken_signingInAnew {s : List (Moment × Event)}
    (hs : ∀ now k, (now, .advanceCycle k) ∈ s ∨ (now, .advance k) ∈ s → k = 0) :
    ¬ (guarded.run signingInAnew).Overtaken s := by
  refine not_overtaken (fun now k hk => ?_) fun now k hk => ?_
  · obtain rfl := hs now k (Or.inl hk)
    decide
  · obtain rfl := hs now k (Or.inr hk)
    rintro ⟨goal, x, hx, hacts⟩
    obtain ⟨goal', hwaits⟩ := waitsWith_signingInAnew
    cases hwaits.symm.trans hx
    cases hacts

/-- The renewal is granted, and the cycle ends. -/
def grantedTooLate : List (Moment × Event) :=
  [ .answerCycle 0 (.ok Renewal.grant), .advanceCycle 0, .advanceCycle 0, .advanceCycle 0 ].map
    (default, ·)

/-- The caller that waited goes on. -/
def goingOn : List (Moment × Event) :=
  [ .advance 0, .advance 0, .advance 0, .advance 0 ].map (default, ·)

/-- The renewal is granted too late, and the caller sends its request with the token of the session
that was installed meanwhile. -/
theorem sign_in_kept_granted :
    let c := guarded.run signingInAnew
    let d := c.run (grantedTooLate ++ goingOn)
    d.store.session = ⟨some "B1", some "R9"⟩ ∧
      ∃ replay, replay.Carries "B1" ∧ d.sentBy 0 = c.sentBy 0 ++ [replay] := by
  intro c d
  have hsession : c.store.session = ⟨some "B1", some "R9"⟩ := rfl
  have hafter : Obeys (Undisturbed 0 "B1" c) c (grantedTooLate ++ goingOn) :=
    obeys_undisturbed (by decide)
  have halone : ¬ c.Overtaken (grantedTooLate ++ goingOn) :=
    not_overtaken_signingInAnew (by simp [grantedTooLate, goingOn])
  have hkept := (sign_in_kept rfl obeys_signingInAnew superseded_signingInAnew hafter).resolve_right
    halone
  obtain ⟨replay, hreplay, hagain⟩ :=
    hkept.sendsAgain [] _ rfl 0 listed .primary .expired waitsWith_signingInAnew
  refine ⟨hkept.session.trans hsession, replay, Request.carries_of_replayWith? hreplay, ?_⟩
  exact hagain.goesOn grantedTooLate goingOn _ rfl rfl (by decide) nofun

/-- The session is renewed, since somebody asks for that, before the caller that waited goes on. -/
def renewedFirst : List (Moment × Event) :=
  grantedTooLate ++
    [ .start .refresh, .advance 2, .advance 2, .advanceCycle 1, .answerCycle 1 (.ok Renewal.grant),
      .advanceCycle 1 ].map (default, ·) ++ goingOn

/-- The caller that waited goes away. -/
def goneAway : List (Moment × Event) :=
  (default, .cancel 0) :: (grantedTooLate ++ goingOn)

/-- Somebody signs in while a renewal is under way and a caller, which has come with a rejection
from elsewhere, is about to clear the session. -/
def signingInMeanwhile : List (Moment × Event) :=
  signingInAnew.take 7 ++
    [ .start (.recover (Renewal.request "R1") .primary .expired), .advance 1,
      .start (.write (.setSession ⟨some "B1", some "R9"⟩)), .advance 2 ].map (default, ·)

/-- That caller clears the session before the one that waited goes on. -/
def clearedFirst : List (Moment × Event) :=
  (default, .advance 1) :: (grantedTooLate ++ goingOn ++
    [.advance 0, .advance 0, .advance 0].map (default, ·))

theorem obeys_signingInMeanwhile :
    Obeys (Spares (Request.Carries · "B1")) guarded signingInMeanwhile := by
  have hstart : Obeys (Spares (Request.Carries · "B1")) guarded (signingInAnew.take 7) := by
    have hwhole := obeys_signingInAnew
    rw [← List.take_append_drop 7 signingInAnew] at hwhole
    exact (obeys_append.mp hwhole).1
  refine obeys_append.mpr ⟨hstart, ?_, spares_of_not_bringsAnswer rfl,
    spares_of_not_bringsAnswer rfl, spares_of_not_bringsAnswer rfl, trivial⟩
  intro k request hrejects
  cases hrejects
  decide

/-- What comes of a session that is overtaken, and of a caller that goes away. Once the session was
renewed, the request is sent with the token that the renewal has brought. Once it was cleared, the
request is not sent again, and the user is sent to the login page on its account. And a caller that
went away while it waited sends nothing any more. -/
theorem sign_in_overtaken :
    let c := guarded.run signingInAnew
    let d := guarded.run signingInMeanwhile
    (Obeys (Spares (Request.Carries · "B1")) guarded signingInAnew ∧
      c.Superseded 0 "R1" "B1" ∧ c.WaitsWith 0 0 listed .primary .expired ∧
      Obeys (Undisturbed 0 "B1" c) c renewedFirst ∧
      (c.run renewedFirst).store.session = ⟨some "A2", some "R9"⟩ ∧
      ((c.run renewedFirst).sentBy 0).map Request.bearer = [some "A1", some "A2"]) ∧
    (Obeys (Spares (Request.Carries · "B1")) guarded signingInMeanwhile ∧
      d.Superseded 0 "R1" "B1" ∧ d.WaitsWith 0 0 listed .primary .expired ∧
      Obeys (Undisturbed 0 "B1" d) d clearedFirst ∧
      (d.run clearedFirst).store.session = {} ∧ (d.run clearedFirst).redirector.navigations = 1 ∧
      ((d.run clearedFirst).sentBy 0).map Request.bearer = [some "A1"] ∧
      (d.run clearedFirst).callers[0]?.any Activity.isPast = true) ∧
    Obeys (Undisturbed 0 "B1" c) c goneAway ∧ ¬ c.Overtaken goneAway ∧
      ((c.run goneAway).sentBy 0).map Request.bearer = [some "A1"] := by
  intro c d
  have hgone : ¬ c.Overtaken goneAway :=
    not_overtaken_signingInAnew (by simp [goneAway, grantedTooLate, goingOn])
  have hbetween : d.Superseded 0 "R1" "B1" :=
    ⟨⟨.inFlight, rfl, rfl⟩, rfl, by decide, by decide⟩
  exact ⟨⟨obeys_signingInAnew, superseded_signingInAnew, waitsWith_signingInAnew,
      obeys_undisturbed (by decide), by decide, by decide⟩,
    ⟨obeys_signingInMeanwhile, hbetween, ⟨.response, rfl⟩, obeys_undisturbed (by decide), by decide,
      by decide, by decide, by decide⟩,
    obeys_undisturbed (by decide), hgone, by decide⟩

end Console

end AdminConsole
