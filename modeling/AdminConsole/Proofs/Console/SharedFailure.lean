import AdminConsole.Proofs.Console.FailedRenewal

/-!
# One failure for everybody

A renewal that fails ends the session for all who were rejected in it, wherever they stand when it
fails: those who wait for the cycle, those who have decided to wait and come too late, those who
are rejected when the session is gone, and those who only start then and send their request without
a token. `failed_renewal` says that in every run they share one renewal and one navigation, and each
hears what was said to its own request. `Lapse.Underway` is the invariant.

The slot is empty in the end because somebody waits for the cycle until it has been told how it
ended: `Underway.watched` says so, and a caller that waits is not done.
-/

namespace AdminConsole

open AdminConsole.Time

/-! ### The path of the login page -/

namespace Console

variable {β : Type} [Backend β]

omit [Backend β] in
theorem redirector_joinOrStart (sent : Option String) (c : Console β) :
    (c.joinOrStart sent).2.redirector = c.redirector := by
  obtain ⟨pending, cycles, heq⟩ := exists_joinOrStart_eq sent c
  rw [heq]

theorem loginPath_stepActivity (now : Moment) (caller : Nat) (a : Activity) (c : Console β) :
    (c.stepActivity now caller a).2.redirector.loginPath = c.redirector.loginPath := by
  rw [stepActivity_snd]
  cases a.effect with
  | joins sent => exact congrArg Redirector.loginPath (redirector_joinOrStart sent c)
  | marks request generation => exact Redirector.loginPath_mark request generation _
  | _ => rfl

theorem loginPath_step (now : Moment) (e : Event) (c : Console β) :
    (c.step now e).redirector.loginPath = c.redirector.loginPath := by
  cases e with
  | advance caller =>
    cases ha : c.callers[caller]? with
    | none => rw [step, advance_of_getElem?_none ha]
    | some a =>
      rw [step, advance_of_getElem? ha]
      exact loginPath_stepActivity now caller a c
  | advanceCycle id => rw [step, (advanceCycle_frame now id c).2.1]
  | _ => exact frame_step (fun d => d.redirector.loginPath) (fun _ _ => rfl) rfl now

/-- The login page of a console is where users sign in. -/
theorem Reachable.loginPath {c : Console β} (h : c.Reachable) :
    c.redirector.loginPath = Endpoint.signIn := by
  obtain ⟨routes, store, s, rfl⟩ := h
  exact run_induction' (P := fun c => c.redirector.loginPath = Endpoint.signIn)
    (fun c now e hc => (loginPath_step now e c).trans hc) s rfl

end Console

/-! ### Runs in which a session lapses -/

/-- The request that a new caller is asked to send. -/
def Event.asked? : Event → Option Request
  | .start (.send request) => some request
  | _ => none

/-- The requests that callers are asked to send in a run, first one first. -/
def askedIn (s : List (Moment × Event)) : List Request := s.filterMap fun x => x.2.asked?

theorem askedIn_append_singleton (s : List (Moment × Event)) (now : Moment) (e : Event) :
    askedIn (s ++ [(now, e)]) = askedIn s ++ e.asked?.toList := by
  rw [askedIn, List.filterMap_append, askedIn]
  cases hasked : e.asked? <;> simp [hasked]

/-- A server that rejects every request: what it answers to a caller, by how many requests the
caller has sent by then. -/
structure Refusal where
  answer : Nat → Nat → Response
  rejects : ∀ caller sent, (answer caller sent).status.code = 401

namespace Lapse

variable {β : Type} {l : Lapse} {server : Refusal} {n : CycleId} {c₀ c c' : Console β}
  {asked : List Request}

/-- What happens while the callers from `first` on send their requests and nobody else does
anything: the server rejects them all, the renewal fails, and nobody goes away. -/
def Allows (server : Refusal) (first : Nat) (c : Console β) : Event → Prop
  | .start op => ∃ request, op = .send request ∧ request.IsPrimary c.routes ∧
      request.route ≠ Endpoint.renewal ∧ request.route ≠ Endpoint.signIn
  | .advance caller => first ≤ caller
  | .answer caller result => first ≤ caller ∧ ∀ goal request scope,
      c.callers[caller]? = some (.exchange goal (.inFlight request scope)) →
      result = .ok (server.answer caller (c.sentBy caller).length)
  | .advanceCycle _ => True
  | .answerCycle _ result => Renewal.Fails result
  | .cancel _ | .killCycle _ => False

/-! ### The one navigation -/

/-- Of the callers from `first` on it is this one, or nobody, who is about to send the user to the
login page. -/
def Navigator (first : Nat) (who : Option Nat) (c : Console β) : Prop :=
  ∀ k, who = some k ↔ first ≤ k ∧ ∃ a, c.callers[k]? = some a ∧ a.isNavigating = true

section Navigator

variable {first k : Nat} {who : Option Nat} {a a' : Activity}

/-- A caller goes on and is about to do so as much as before. -/
theorem Navigator.set (h : Navigator first who c) (ha : c.callers[k]? = some a)
    (hcallers : c'.callers = c.callers.set k a') (hsame : a'.isNavigating = a.isNavigating) :
    Navigator first who c' := by
  intro j
  rw [h j, hcallers]
  by_cases hjk : k = j
  · subst hjk
    rw [List.getElem?_set_self (List.getElem?_eq_some_iff.mp ha).1, ha]
    simp only [Option.some.injEq, exists_eq_left', hsame]
  · rw [List.getElem?_set_ne hjk]

/-- A caller has come to be the one who is about to do so. -/
theorem Navigator.turn (h : Navigator first none c) (hk : first ≤ k) (ha : c.callers[k]? = some a)
    (hcallers : c'.callers = c.callers.set k a') (hnow : a'.isNavigating = true) :
    Navigator first (some k) c' := by
  intro j
  rw [hcallers]
  by_cases hjk : k = j
  · subst hjk
    rw [List.getElem?_set_self (List.getElem?_eq_some_iff.mp ha).1]
    exact iff_of_true rfl ⟨hk, a', rfl, hnow⟩
  · rw [List.getElem?_set_ne hjk, ← h j]
    exact iff_of_false (fun heq => hjk (Option.some_inj.mp heq)) nofun

/-- The one who was about to do so has done so. -/
theorem Navigator.over (h : Navigator first (some k) c) (ha : c.callers[k]? = some a)
    (hcallers : c'.callers = c.callers.set k a') (hnow : a'.isNavigating = false) :
    Navigator first none c' := by
  intro j
  rw [hcallers]
  refine iff_of_false nofun ?_
  by_cases hjk : k = j
  · subst hjk
    rw [List.getElem?_set_self (List.getElem?_eq_some_iff.mp ha).1]
    rintro ⟨-, b, hb, hnavigating⟩
    obtain rfl := Option.some_inj.mp hb
    rw [hnow] at hnavigating
    cases hnavigating
  · rw [List.getElem?_set_ne hjk, ← h j]
    exact fun heq => hjk (Option.some_inj.mp heq)

/-- A caller has come that is not about to do so. -/
theorem Navigator.append (h : Navigator first who c) (hnot : a.isNavigating = false)
    (hcallers : c'.callers = c.callers ++ [a]) : Navigator first who c' := by
  intro j
  rw [h j, hcallers]
  rcases Nat.lt_trichotomy j c.callers.length with hlt | rfl | hgt
  · rw [List.getElem?_append_left hlt]
  · rw [List.getElem?_concat_length, List.getElem?_eq_none (Nat.le_refl _)]
    simp [hnot]
  · rw [List.getElem?_eq_none (Nat.le_of_lt hgt), List.getElem?_eq_none (by simp; omega)]

theorem navigator_none (c : Console β) : Navigator c.callers.length none c := by
  refine fun k => iff_of_false nofun ?_
  rintro ⟨hk, a, ha, -⟩
  rw [List.getElem?_eq_none hk] at ha
  cases ha

end Navigator

theorem isNavigating_answer (goal : Goal) (x : Exchange) (result : Except ApiError Response) :
    (Activity.exchange goal (x.answer result)).isNavigating =
      (Activity.exchange goal x).isNavigating := by
  cases x with
  | inFlight request scope =>
    cases result with
    | error e => rfl
    | ok response =>
      simp only [Exchange.answer]
      split <;> rfl
  | _ => rfl

/-- The user is sent to the login page once, if at all, and then on account of a request that is not
silent: that has not come about yet, or somebody is about to do it, or it was done. -/
inductive SentAwayOnce (c₀ : Console β) (asked : List Request) (c : Console β) : Prop
  | notYet (hsame : c.redirector = c₀.redirector)
      (hnobody : Navigator c₀.callers.length none c) : SentAwayOnce c₀ asked c
  | soon {k : Nat} (hloud : ∃ request ∈ asked, request.options.silent = false)
      (hmarked : c.redirector = c₀.redirector.sentAway c₀.store.generation)
      (hwho : Navigator c₀.callers.length (some k) c) : SentAwayOnce c₀ asked c
  | done (hloud : ∃ request ∈ asked, request.options.silent = false)
      (hmade : c.redirector = (c₀.redirector.sentAway c₀.store.generation).navigate)
      (hnobody : Navigator c₀.callers.length none c) : SentAwayOnce c₀ asked c

namespace SentAwayOnce

theorem loginPath (h : SentAwayOnce c₀ asked c) :
    c.redirector.loginPath = c₀.redirector.loginPath := by
  cases h with
  | notYet hsame hnobody => rw [hsame]
  | soon hloud hmarked hwho => rw [hmarked]; rfl
  | done hloud hmade hnobody => rw [hmade]; rfl

/-- Nobody tells the redirector anything. -/
theorem congr (h : SentAwayOnce c₀ asked c) {asked' : List Request}
    (hasked : ∀ request ∈ asked, request ∈ asked') (hredirector : c'.redirector = c.redirector)
    (hcallers : ∀ who, Navigator c₀.callers.length who c → Navigator c₀.callers.length who c') :
    SentAwayOnce c₀ asked' c' := by
  have hstill : (∃ request ∈ asked, request.options.silent = false) →
      ∃ request ∈ asked', request.options.silent = false :=
    fun ⟨request, hmem, hsilent⟩ => ⟨request, hasked request hmem, hsilent⟩
  cases h with
  | notYet hsame hnobody => exact .notYet (hredirector.trans hsame) (hcallers none hnobody)
  | soon hloud hmarked hwho =>
    exact .soon (hstill hloud) (hredirector.trans hmarked) (hcallers _ hwho)
  | done hloud hmade hnobody =>
    exact .done (hstill hloud) (hredirector.trans hmade) (hcallers none hnobody)

/-- A caller tells the redirector that its request has lost the session. -/
theorem mark (h : SentAwayOnce c₀ asked c) {k : Nat} {a a' : Activity} {request other : Request}
    (hk : c₀.callers.length ≤ k) (ha : c.callers[k]? = some a) (hbefore : a.isNavigating = false)
    (hmem : other ∈ asked)
    (hsilent : request.options.silent = other.options.silent)
    (hafter : a'.isNavigating = (c.redirector.mark request c₀.store.generation).1)
    (hredirector : c'.redirector = (c.redirector.mark request c₀.store.generation).2)
    (hcallers : c'.callers = c.callers.set k a') : SentAwayOnce c₀ asked c' := by
  rcases c.redirector.mark_eq_or request c₀.store.generation with heq | ⟨hloud, hfirst, heq⟩
  · rw [heq] at hafter hredirector
    exact h.congr (fun _ => id) hredirector fun _ hwho =>
      hwho.set ha hcallers (hafter.trans hbefore.symm)
  · rw [heq] at hafter hredirector
    cases h with
    | notYet hsame hnobody =>
      exact .soon ⟨other, hmem, hsilent.symm.trans hloud⟩ (hsame ▸ hredirector)
        (hnobody.turn hk ha hcallers hafter)
    -- a navigation is made only if none was made before
    | soon _ hmarked hwho =>
      rw [hmarked] at hfirst
      exact absurd rfl hfirst
    | done _ hmade hnobody =>
      rw [hmade] at hfirst
      exact absurd rfl hfirst

/-- A caller sends the user to the login page. -/
theorem navigate (h : SentAwayOnce c₀ asked c) {k : Nat} {a a' : Activity}
    (hk : c₀.callers.length ≤ k) (ha : c.callers[k]? = some a) (hbefore : a.isNavigating = true)
    (hafter : a'.isNavigating = false) (hredirector : c'.redirector = c.redirector.navigate)
    (hcallers : c'.callers = c.callers.set k a') : SentAwayOnce c₀ asked c' := by
  cases h with
  | notYet hsame hnobody => cases (hnobody k).mpr ⟨hk, a, ha, hbefore⟩
  | soon hloud hmarked hwho =>
    obtain rfl := Option.some_inj.mp ((hwho k).mpr ⟨hk, a, ha, hbefore⟩)
    exact .done hloud (hmarked ▸ hredirector) (hwho.over ha hcallers hafter)
  | done hloud hmade hnobody => cases (hnobody k).mpr ⟨hk, a, ha, hbefore⟩

end SentAwayOnce

section Advance

variable [Backend β]

/-- Only one whose request has lost the session has to do with the redirector. -/
theorem redirector_stepActivity_of_other {x : Exchange}
    (hmarks : ∀ request said generation, x ≠ .redirecting request said generation)
    (hnavigates : ∀ said, x ≠ .navigating said) (now : Moment) (k : Nat) :
    (c.stepActivity now k (.exchange .response x)).1.isNavigating = false ∧
      (c.stepActivity now k (.exchange .response x)).2.redirector = c.redirector := by
  by_cases hover : ∃ result, x = .finished result
  · obtain ⟨result, rfl⟩ := hover
    exact ⟨rfl, rfl⟩
  rw [Console.stepActivity_exchange now k .response c (not_exists.mp hover)]
  refine ⟨?_, ?_⟩
  · generalize hy : (c.stepExchange now k x).1 = y
    cases Exchange.stepsTo_of_stepExchange hy with
    | marks said hfirst => exact absurd rfl (hmarks _ said _)
    | _ => rfl
  · rw [Console.stepExchange_snd]
    cases x with
    | preparing request scope todo => cases todo <;> rfl
    | joining request scope response => exact Console.redirector_joinOrStart request.bearer c
    | redirecting request said generation => exact absurd rfl (hmarks request said generation)
    | navigating said => exact absurd rfl (hnavigates said)
    | _ => rfl

theorem SentAwayOnce.advance (h : SentAwayOnce c₀ asked c) {k : Nat} {a : Activity}
    {request : Request} {response : Response} {sent : List Request}
    (hk : c₀.callers.length ≤ k) (ha : c.callers[k]? = some a) (hmem : request ∈ asked)
    (hstage : Stage l n c₀.store.generation request response c a sent) (now : Moment) :
    SentAwayOnce c₀ asked (c.advance now k) := by
  have hset := Console.callers_stepActivity now k a c
  rw [Console.advance_of_getElem? ha]
  cases hstage with
  | redirecting headers hempty =>
    let rejected : Request := { request with headers := headers }
    have hsilent : rejected.options.silent = request.options.silent := rfl
    cases hfirst : (c.redirector.mark rejected c₀.store.generation).1 with
    | true =>
      rw [Console.stepActivity_redirecting_of_first hfirst]
      refine h.mark hk ha rfl hmem hsilent ?_ rfl rfl
      exact hfirst.symm
    | false =>
      rw [Console.stepActivity_redirecting_of_not_first hfirst]
      refine h.mark hk ha rfl hmem hsilent ?_ rfl rfl
      exact hfirst.symm
  | navigating headers hempty haway => exact h.navigate hk ha rfl rfl rfl rfl
  | done headers hempty haway =>
    exact h.congr (fun _ => id) rfl fun _ hwho => hwho.set ha rfl rfl
  | _ =>
    refine h.congr (fun _ => id) (redirector_stepActivity_of_other ?_ ?_ now k).2
      fun _ hwho => hwho.set ha (congrArg (List.set · k _) hset)
        (redirector_stepActivity_of_other ?_ ?_ now k).1 <;> simp

end Advance

/-! ### How far a run has come -/

/-- A run that has come as far as `c` from `c₀`, since when the callers were asked to send these
requests. -/
structure Underway (l : Lapse) (server : Refusal) (c₀ : Console β) (asked : List Request)
    (c : Console β) : Prop where
  flight : c.SingleFlight
  phase : l.turn.Phase c₀.cycles.length c
  generation : c.store.generation = c₀.store.generation
  away : SentAwayOnce c₀ asked c
  callers : c.callers.length = c₀.callers.length + asked.length
  unsent : c.Unsent
  stage : ∀ k a, c₀.callers.length ≤ k → c.callers[k]? = some a → ∃ request,
    asked[k - c₀.callers.length]? = some request ∧ request.IsRecoverable ∧
      request.route ≠ Endpoint.signIn ∧
      Stage l c₀.cycles.length c₀.store.generation request (server.answer k 1) c a (c.sentBy k)
  /-- Somebody waits for the cycle until it is told how it ended. -/
  watched : c₀.cycles.length < c.cycles.length → c.outcome? c₀.cycles.length = none →
    ∃ k a, c₀.callers.length ≤ k ∧ c.callers[k]? = some a ∧
      a.waitsFor c₀.cycles.length = true

/-- What is so once a renewal has failed for everybody who came after `c₀`: one renewal was sent,
the session is gone and no cycle is under way, whoever was asked to send a request has sent it once
and heard what the server said to that, and the user was sent to the login page once, unless all
requests are silent. -/
structure FailedAll (server : Refusal) (c₀ : Console β) (asked : List Request) (c : Console β) :
    Prop where
  renewals : c.renewalsSent = c₀.renewalsSent + 1
  session : c.store.session = {}
  slot : c.pending = none
  heard : ∀ (i : Nat) (request : Request), asked[i]? = some request →
    let caller := c₀.callers.length + i
    c.callers[caller]? = some (.finished (.response
      (.error (.sessionExpired (ApiError.saidIn (server.answer caller 1).body))))) ∧
      ∃ headers, c.sentBy caller = [{ request with headers := headers }]
  navigations : c.redirector.navigations = c₀.redirector.navigations +
    if ∃ request ∈ asked, request.options.silent = false then 1 else 0

/-- A caller that is done was told that the session has expired. -/
theorem Underway.heard (h : Underway l server c₀ asked c) {i : Nat} {request : Request}
    (hasked : asked[i]? = some request)
    (hover : ∀ k a, c₀.callers.length ≤ k → c.callers[k]? = some a → ∃ outcome,
      a = .finished outcome) :
    c.callers[c₀.callers.length + i]? = some (.finished (.response (.error
        (.sessionExpired (ApiError.saidIn (server.answer (c₀.callers.length + i) 1).body))))) ∧
      (∃ headers, c.sentBy (c₀.callers.length + i) = [{ request with headers := headers }]) ∧
      c.store.session = {} ∧
      (request.options.silent = false →
        c.redirector.onLogin = some c₀.store.generation) := by
  have hlt : c₀.callers.length + i < c.callers.length := by
    rw [h.callers]
    exact Nat.add_lt_add_left (List.getElem?_eq_some_iff.mp hasked).1 _
  have ha := List.getElem?_eq_getElem hlt
  obtain ⟨outcome, heq⟩ := hover _ _ (Nat.le_add_right _ i) ha
  rw [heq] at ha
  obtain ⟨other, hother, -, -, hstage⟩ := h.stage _ _ (Nat.le_add_right _ i) ha
  rw [Nat.add_sub_cancel_left, hasked, Option.some_inj] at hother
  subst hother
  generalize c.sentBy (c₀.callers.length + i) = sent at hstage
  cases hstage with
  | done headers hempty haway => exact ⟨ha, ⟨headers, rfl⟩, hempty, haway⟩

theorem Underway.failedAll (h : Underway l server c₀ asked c) (h₀ : c₀.SingleFlight)
    (hslot : c₀.pending = none) (hfirst : c₀.redirector.onLogin ≠ some c₀.store.generation)
    (hsome : asked ≠ [])
    (hover : ∀ k a, c₀.callers.length ≤ k → c.callers[k]? = some a → ∃ outcome,
      a = .finished outcome) : FailedAll server c₀ asked c := by
  have hheard := fun i request (hasked : asked[i]? = some request) => h.heard hasked hover
  -- one caller that is done is enough to know that the cycle has failed
  have hempty : c.store.session = {} := by
    obtain ⟨request, rest, heq⟩ := List.exists_cons_of_ne_nil hsome
    exact (hheard 0 request (heq ▸ rfl)).2.2.1
  have hsent : c.renewalsSent = c₀.cycles.length + 1 :=
    h.phase.renewalsSent_of_after h.flight hempty
  refine ⟨by rw [hsent, h₀.renewalsSent_of_idle hslot], hempty, ?_, fun i request hasked => ?_, ?_⟩
  · cases htold : c.outcome? c₀.cycles.length with
    | some outcome => exact h.phase.slot_of_told h.flight htold
    | none =>
      obtain ⟨k, a, hk, ha, hwaits⟩ := h.watched (h.phase.started_of_after hempty) htold
      obtain ⟨outcome, rfl⟩ := hover k a hk ha
      cases hwaits
  · obtain ⟨hfinished, hheaders, -⟩ := hheard i request hasked
    exact ⟨hfinished, hheaders⟩
  · by_cases hloud : ∃ request ∈ asked, request.options.silent = false
    · obtain ⟨request, hmem, hsilent⟩ := hloud
      obtain ⟨i, hasked⟩ := List.mem_iff_getElem?.mp hmem
      have haway := (hheard i request hasked).2.2.2 hsilent
      rw [if_pos ⟨request, hmem, hsilent⟩]
      cases h.away with
      | notYet hsame hnobody => exact absurd (hsame ▸ haway) hfirst
      | @soon k _ hmarked hwho =>
        -- whoever is about to send the user away is not done
        obtain ⟨hk, a, ha, hnavigating⟩ := (hwho k).mp rfl
        obtain ⟨outcome, rfl⟩ := hover k a hk ha
        cases hnavigating
      | done _ hmade hnobody =>
        rw [hmade]
        rfl
    · rw [if_neg hloud]
      cases h.away with
      | notYet hsame hnobody => rw [hsame, Nat.add_zero]
      | soon hexists hmarked hwho => exact absurd hexists hloud
      | done hexists hmade hnobody => exact absurd hexists hloud

/-- One caller goes on. -/
theorem Underway.set (h : Underway l server c₀ asked c) {k : Nat} {a a' : Activity}
    {request : Request} (hk : c₀.callers.length ≤ k) (ha : c.callers[k]? = some a)
    (hasked : asked[k - c₀.callers.length]? = some request) (hflight : c'.SingleFlight)
    (hphase : l.turn.Phase c₀.cycles.length c')
    (hgeneration : c'.store.generation = c.store.generation) (haway : SentAwayOnce c₀ asked c')
    (hon : Onward c₀.store.generation c c') (hcallers : c'.callers = c.callers.set k a')
    (hothers : ∀ j, j ≠ k → c'.sentBy j = c.sentBy j)
    (hstage : Stage l c₀.cycles.length c₀.store.generation request (server.answer k 1) c' a'
      (c'.sentBy k))
    (hwatched : c₀.cycles.length < c'.cycles.length → c'.outcome? c₀.cycles.length = none →
      a'.waitsFor c₀.cycles.length = true ∨ c₀.cycles.length < c.cycles.length ∧
        c.outcome? c₀.cycles.length = none ∧ a.waitsFor c₀.cycles.length = false) :
    Underway l server c₀ asked c' := by
  have hlt : k < c.callers.length := (List.getElem?_eq_some_iff.mp ha).1
  have hlength : c'.callers.length = c.callers.length := by rw [hcallers, List.length_set]
  have hself : c'.callers[k]? = some a' := by rw [hcallers, List.getElem?_set_self hlt]
  have hother : ∀ j, j ≠ k → c'.callers[j]? = c.callers[j]? := fun j hj => by
    rw [hcallers, List.getElem?_set_ne (Ne.symm hj)]
  refine ⟨hflight, hphase, hgeneration.trans h.generation, haway, hlength.trans h.callers,
    fun j hj => ?_, fun j b hj hb => ?_, fun hstarted htold => ?_⟩
  · have hne : j ≠ k := by
      rintro rfl
      exact absurd hlt (Nat.not_lt_of_le (hlength ▸ hj))
    exact (hothers j hne).trans (h.unsent j (hlength ▸ hj))
  · by_cases hjk : j = k
    · subst hjk
      obtain ⟨other, hother, hrecoverable, hroute, -⟩ := h.stage j a hj ha
      rw [hasked, Option.some_inj] at hother
      subst hother
      rw [hself, Option.some_inj] at hb
      subst hb
      exact ⟨request, hasked, hrecoverable, hroute, hstage⟩
    · rw [hother j hjk] at hb
      obtain ⟨request, hasked, hrecoverable, hroute, hstage⟩ := h.stage j b hj hb
      rw [hothers j hjk]
      exact ⟨request, hasked, hrecoverable, hroute, hstage.mono hon⟩
  · rcases hwatched hstarted htold with hwaits | ⟨hstarted, htold, hnot⟩
    · exact ⟨k, a', hk, hself, hwaits⟩
    · obtain ⟨j, b, hj, hb, hwaits⟩ := h.watched hstarted htold
      have hjk : j ≠ k := by
        rintro rfl
        rw [ha, Option.some_inj] at hb
        subst hb
        rw [hnot] at hwaits
        cases hwaits
      exact ⟨j, b, hj, (hother j hjk).trans hb, hwaits⟩

/-- The cycle goes on. -/
theorem Underway.congr (h : Underway l server c₀ asked c) (hflight : c'.SingleFlight)
    (hphase : l.turn.Phase c₀.cycles.length c')
    (hgeneration : c'.store.generation = c.store.generation)
    (hredirector : c'.redirector = c.redirector) (hon : Onward c₀.store.generation c c')
    (hcallers : c'.callers = c.callers) (hsent : ∀ k, c'.sentBy k = c.sentBy k)
    (hlength : c'.cycles.length = c.cycles.length)
    (htold : ∀ outcome, c.outcome? c₀.cycles.length = some outcome →
      c'.outcome? c₀.cycles.length = some outcome) :
    Underway l server c₀ asked c' where
  flight := hflight
  phase := hphase
  generation := hgeneration.trans h.generation
  away := h.away.congr (fun _ => id) hredirector fun _ hwho k => by rw [hwho k, hcallers]
  callers := hcallers ▸ h.callers
  unsent k hk := (hsent k).trans (h.unsent k (hcallers ▸ hk))
  stage k a hk ha := by
    rw [hcallers] at ha
    obtain ⟨request, hasked, hrecoverable, hroute, hstage⟩ := h.stage k a hk ha
    rw [hsent k]
    exact ⟨request, hasked, hrecoverable, hroute, hstage.mono hon⟩
  watched hstarted hnone := by
    rw [hcallers]
    refine h.watched (hlength ▸ hstarted) (Option.eq_none_iff_forall_ne_some.mpr ?_)
    intro outcome hsome
    rw [htold outcome hsome] at hnone
    cases hnone

variable [Backend β]

/-! ### Steps of a run -/

theorem Underway.start (h : Underway l server c₀ asked c) {request : Request}
    (hprimary : request.IsPrimary c.routes) (hrenewal : request.route ≠ Endpoint.renewal)
    (hsignIn : request.route ≠ Endpoint.signIn) (now : Moment) :
    Underway l server c₀ (asked ++ [request]) (c.step now (.start (.send request))) := by
  have hstart := hprimary.start_eq
  refine ⟨h.flight.step now _, h.phase.congr rfl rfl rfl, h.generation, ?_, ?_,
    h.unsent.step now _, fun k a hk ha => ?_, fun hstarted htold => ?_⟩
  · have hnot : (Activity.start c.routes (.send request)).isNavigating = false := by
      rw [hstart]
      rfl
    exact h.away.congr (fun _ => List.mem_append_left _) rfl fun _ hwho => hwho.append hnot rfl
  · simp only [Console.step, List.length_append, List.length_singleton, h.callers, Nat.add_assoc]
  -- the callers that were there, the new one, and those that have not come yet
  · rcases Nat.lt_trichotomy k c.callers.length with hlt | rfl | hgt
    · have hbefore : c.callers[k]? = some a := (List.getElem?_append_left hlt).symm.trans ha
      obtain ⟨other, hasked, hrecoverable, hroute, hstage⟩ := h.stage k a hk hbefore
      refine ⟨other, ?_, hrecoverable, hroute, hstage.mono ⟨Nat.le_refl _, id, id⟩⟩
      rw [List.getElem?_append_left (List.getElem?_eq_some_iff.mp hasked).1, hasked]
    · have hnew : Activity.start c.routes (.send request) = a := by
        simpa [Console.step] using ha
      have hnone : (c.step now (.start (.send request))).sentBy c.callers.length = [] :=
        h.unsent _ (Nat.le_refl _)
      have hlast : c.callers.length - c₀.callers.length = asked.length := by
        rw [h.callers, Nat.add_sub_cancel_left]
      refine ⟨request, ?_, ⟨hprimary.unsent, hrenewal⟩, hsignIn, ?_⟩
      · rw [hlast, List.getElem?_concat_length]
      · rw [← hnew, hnone, hstart]
        exact .attaching
    · have hlast := (List.getElem?_eq_some_iff.mp ha).1
      simp only [Console.step, List.length_append, List.length_singleton] at hlast
      omega
  · obtain ⟨k, a, hk, ha, hwaits⟩ := h.watched hstarted htold
    have hlt := (List.getElem?_eq_some_iff.mp ha).1
    exact ⟨k, a, hk, (List.getElem?_append_left hlt).trans ha, hwaits⟩

theorem Underway.advance (h : Underway l server c₀ asked c)
    (hlogin : c₀.redirector.loginPath = Endpoint.signIn) {k : Nat}
    (hk : c₀.callers.length ≤ k) (now : Moment) :
    Underway l server c₀ asked (c.advance now k) := by
  cases ha : c.callers[k]? with
  | none =>
    rw [Console.advance_of_getElem?_none ha]
    exact h
  | some a =>
    obtain ⟨request, hasked, hrecoverable, hroute, hstage⟩ := h.stage k a hk ha
    have hflight := h.flight.step now (.advance k)
    have hroute' : request.route ≠ c.redirector.loginPath := by
      rw [h.away.loginPath, hlogin]
      exact hroute
    have haway := h.away.advance hk ha (List.mem_of_getElem? hasked) hstage now
    rw [Console.advance_of_getElem? ha] at haway
    have hmove := hstage.move hrecoverable hroute' (server.rejects k 1) h.phase h.generation now k
    have hwatched : c₀.cycles.length < c.cycles.length → c.outcome? c₀.cycles.length = none →
        (c.stepActivity now k a).1.waitsFor c₀.cycles.length = true ∨
          c₀.cycles.length < c.cycles.length ∧ c.outcome? c₀.cycles.length = none ∧
            a.waitsFor c₀.cycles.length = false := by
      intro hstarted htold
      cases hwaits : a.waitsFor c₀.cycles.length with
      | true => exact Or.inl (waitsFor_stepActivity hwaits htold now k)
      | false => exact Or.inr ⟨hstarted, htold, rfl⟩
    rw [Console.step, Console.advance_of_getElem? ha] at hflight
    rw [Console.advance_of_getElem? ha]
    -- only what `Move` says of the step is needed from here on
    generalize c.stepActivity now k a = p at hflight haway hmove hwatched
    cases hmove with
    | alone hstage =>
      exact h.set hk ha hasked hflight (h.phase.congr rfl rfl rfl) rfl haway
        ⟨Nat.le_refl _, id, id⟩ rfl (fun _ _ => rfl) (hstage.mono ⟨Nat.le_refl _, id, id⟩) hwatched
    | @sends a' request hstage =>
      refine h.set hk ha hasked hflight (h.phase.congr rfl rfl rfl) rfl haway
        ⟨Nat.le_refl _, id, id⟩ rfl
        (fun j hj => Console.sentBy_transmit_of_ne (by simpa using Ne.symm hj) request c) ?_
        hwatched
      have hsent : (c.transmit (.caller k) request).sentBy k = c.sentBy k ++ [request] :=
        Console.sentBy_transmit_self k request c
      rw [← hsent] at hstage
      exact hstage.mono ⟨Nat.le_refl _, id, id⟩
    | @starts a' c' hidle hstart hsession hwaits hstage =>
      subst hstart
      refine h.set hk ha hasked hflight ?_ rfl haway ⟨by simp, id, id⟩ rfl (fun _ _ => rfl)
        (hstage.mono ⟨Nat.le_refl _, id, id⟩) fun _ _ => Or.inl hwaits
      exact (Turn.Phase.start hidle hsession).congr rfl rfl rfl
    | @clears a' store hbefore hafter hgeneration hstage =>
      exact h.set hk ha hasked hflight (h.phase.congr rfl (hafter.trans hbefore.symm) rfl)
        hgeneration haway ⟨Nat.le_refl _, fun _ => hafter, id⟩ rfl (fun _ _ => rfl)
        (hstage.mono ⟨Nat.le_refl _, id, id⟩) hwatched
    | @turns a' redirector hkept hstage =>
      exact h.set hk ha hasked hflight (h.phase.congr rfl rfl rfl) rfl haway
        ⟨Nat.le_refl _, id, hkept⟩ rfl (fun _ _ => rfl) (hstage.mono ⟨Nat.le_refl _, id, id⟩)
        hwatched

theorem Underway.answer (h : Underway l server c₀ asked c) {k : Nat}
    (hk : c₀.callers.length ≤ k) (now : Moment) {result : Except ApiError Response}
    (hresult : ∀ goal request scope,
      c.callers[k]? = some (.exchange goal (.inFlight request scope)) →
      result = .ok (server.answer k (c.sentBy k).length)) :
    Underway l server c₀ asked (c.answer k result) := by
  have hflight := h.flight.step now (.answer k result)
  rw [Console.step] at hflight
  unfold Console.answer at hflight ⊢
  split
  case h_2 => exact h
  case h_1 goal x ha =>
    simp only [ha] at hflight
    obtain ⟨request, hasked, hrecoverable, hroute, hstage⟩ := h.stage k _ hk ha
    -- the answer is the one to the first request, since no other was sent
    have hfirst : ∀ sent scope, x = .inFlight sent scope → result = .ok (server.answer k 1) := by
      rintro sent scope rfl
      rw [hresult goal sent scope ha, hstage.length_of_inFlight]
    have haway : SentAwayOnce c₀ asked
        { c with callers := c.callers.set k (.exchange goal (x.answer result)) } := by
      refine h.away.congr (fun _ => id) rfl fun _ hwho => hwho.set ha rfl ?_
      exact isNavigating_answer goal x result
    refine h.set hk ha hasked hflight (h.phase.congr rfl rfl rfl) rfl haway
      ⟨Nat.le_refl _, id, id⟩ rfl (fun _ _ => rfl) ?_ fun hstarted htold => ?_
    · exact (hstage.answer (server.rejects k 1) hfirst).mono ⟨Nat.le_refl _, id, id⟩
    · cases hwaits : (Activity.exchange goal x).waitsFor c₀.cycles.length with
      | false => exact Or.inr ⟨hstarted, htold, rfl⟩
      | true =>
        cases x with
        | waiting request scope response id => exact Or.inl hwaits
        | _ => cases hwaits

/-- A cycle that fails installs no access token. -/
theorem generation_advanceCycle (hphase : l.turn.Phase n c) (hflight : c.SingleFlight)
    (now : Moment) (id : CycleId) :
    (c.advanceCycle now id).store.generation = c.store.generation := by
  cases hid : c.cycles[id]? with
  | none => rw [Console.advanceCycle_of_getElem?_none hid]
  | some cycle =>
    obtain ⟨used, stage⟩ := cycle
    cases stage with
    | answered tokens =>
      obtain ⟨failure, rfl⟩ := hphase.brings_of_answered hflight hid
      rw [Console.advanceCycle_answered now hid]
      simp only [Store.settle, Store.clearIf]
      split <;> rfl
    | _ =>
      rw [Console.advanceCycle_of_getElem? hid]
      rfl

theorem Underway.advanceCycle (h : Underway l server c₀ asked c) (now : Moment) (id : CycleId) :
    Underway l server c₀ asked (c.advanceCycle now id) := by
  obtain ⟨hphase, hempty⟩ := h.phase.advanceCycle h.flight now id
  obtain ⟨-, hredirector, hcallers⟩ := Console.advanceCycle_frame now id c
  have hlength := Console.length_cycles_advanceCycle now id c
  exact h.congr (h.flight.step now (.advanceCycle id)) hphase
    (generation_advanceCycle h.phase h.flight now id) hredirector
    ⟨Nat.le_of_eq hlength.symm, hempty, fun haway => hredirector ▸ haway⟩ hcallers
    (fun k => Console.sentBy_advanceCycle now id k c) hlength
    fun outcome htold => Console.outcome?_step htold now (.advanceCycle id)

theorem Underway.answerCycle (h : Underway l server c₀ asked c) {result : Except ApiError Response}
    (hfails : Renewal.Fails result) (now : Moment) (id : CycleId) :
    Underway l server c₀ asked (c.step now (.answerCycle id result)) := by
  obtain ⟨failure, hfailure⟩ := hfails.exists_failure
  have hflight := h.flight.step now (.answerCycle id result)
  have htold : ∀ outcome, c.outcome? c₀.cycles.length = some outcome →
      (c.step now (.answerCycle id result)).outcome? c₀.cycles.length = some outcome :=
    fun _ htold => Console.outcome?_step htold now _
  have hphase := h.phase.goOn id ⟨failure, rfl⟩
  rw [Console.step, hfailure] at hflight htold ⊢
  by_cases hid : ∃ refreshToken, c.cycles[id]? = some ⟨refreshToken, .inFlight⟩
  · obtain ⟨refreshToken, hid⟩ := hid
    rw [Console.goOn_of_inFlight _ hid] at hflight hphase htold ⊢
    exact h.congr hflight hphase rfl rfl
      ⟨Nat.le_of_eq List.length_set.symm, fun hempty => hempty, fun haway => haway⟩ rfl
      (fun _ => rfl) List.length_set htold
  · rw [Console.goOn_of_not_inFlight _ (not_exists.mp hid)]
    exact h

/-- **Steps of a run.** Whatever the callers and the cycle do, the run stays one in which the
session lapses once. -/
theorem Underway.step (h : Underway l server c₀ asked c)
    (hlogin : c₀.redirector.loginPath = Endpoint.signIn) {e : Event}
    (he : Allows server c₀.callers.length c e) (now : Moment) :
    Underway l server c₀ (asked ++ e.asked?.toList) (c.step now e) := by
  have hsame : ∀ {c' : Console β}, Underway l server c₀ asked c' →
      Underway l server c₀ (asked ++ []) c' := fun h' => (List.append_nil asked).symm ▸ h'
  cases e with
  | start op =>
    obtain ⟨request, rfl, hprimary, hrenewal, hsignIn⟩ := he
    exact h.start hprimary hrenewal hsignIn now
  | advance caller => exact hsame (h.advance hlogin he now)
  | answer caller result => exact hsame (h.answer he.1 now he.2)
  | advanceCycle id => exact hsame (h.advanceCycle now id)
  | answerCycle id result => exact hsame (h.answerCycle he now id)
  | cancel caller => exact he.elim
  | killCycle id => exact he.elim

/-! ### Whole runs -/

/-- **One failure for everybody.** Let a console that has come to stand with no cycle under way
hold a session that cannot be renewed, and let the user not be at the login page in that session.
If any number of callers, at least one, send requests of the session's own scope, none of them to
where users sign in or sessions are renewed, in any interleaving of all their steps with those of
the server and the cycle, then once all are done a single renewal has failed for all of them. -/
theorem failed_renewal (l : Lapse) (server : Refusal) {s : List (Moment × Event)}
    (hreachable : c₀.Reachable) (hslot : c₀.pending = none) (hsession : c₀.store.session = l.before)
    (hfirst : c₀.redirector.onLogin ≠ some c₀.store.generation)
    (hallows : Console.Obeys (Allows server c₀.callers.length) c₀ s) (hsome : askedIn s ≠ [])
    (hover : ∀ k a, c₀.callers.length ≤ k → (c₀.run s).callers[k]? = some a → ∃ outcome,
      a = .finished outcome) : FailedAll server c₀ (askedIn s) (c₀.run s) := by
  have hstart : Underway l server c₀ (askedIn []) c₀ :=
    { flight := hreachable.singleFlight
      phase := .idle rfl hsession hslot
      generation := rfl
      away := .notYet rfl (navigator_none c₀)
      callers := rfl
      unsent := hreachable.unsent
      stage := fun k a hk ha => absurd (List.getElem?_eq_some_iff.mp ha).1 (Nat.not_lt_of_le hk)
      watched := fun hstarted => absurd hstarted (Nat.lt_irrefl _) }
  have hrun : Underway l server c₀ (askedIn ([] ++ s)) (c₀.run s) := by
    refine Console.run_induction_past (P := fun past c => Underway l server c₀ (askedIn past) c)
      (fun past c now e h he => ?_) hstart hallows
    rw [askedIn_append_singleton]
    exact h.step hreachable.loginPath he now
  exact hrun.failedAll hreachable.singleFlight hslot hfirst hsome hover

/-- An access token that is no longer accepted. -/
def expired : Lapse where
  old := "A1"
  used := "R1"
  old_visible := Rotation.expired.old_visible

/-- The server says to everybody that the access token has expired. -/
def sayingExpired : Refusal := ⟨fun _ _ => .expired, fun _ _ => rfl⟩

/-- A request on account of which nobody is sent to the login page. -/
def silentListing : Request := { Request.listing with options := { silent := true } }

/-- Three callers. The silent one starts the cycle; the second is rejected when the session is gone
and the cycle still in the slot; the third comes when the cycle is over, and has no token to send.
-/
def lapsing : List (Moment × Event) :=
  [ .start (.send silentListing), .start (.send .listing), .advance 0, .advance 0, .advance 1,
    .answer 0 (.ok .expired), .advance 0, .advance 0, .advanceCycle 0,
    .answerCycle 0 (.error (.network "down")), .advanceCycle 0,
    .advance 1, .answer 1 (.ok .expired), .advance 1, .advance 1, .advance 1, .advance 1,
    .advance 1, .advance 1, .advanceCycle 0, .advanceCycle 0,
    .start (.send .listing), .advance 2, .advance 2, .advance 2,
    .answer 2 (.ok .expired), .advance 2, .advance 2, .advance 2, .advance 2, .advance 2,
    .advance 0, .advance 0, .advance 0, .advance 0, .advance 0, .advance 0 ].map (default, ·)

theorem failed_renewal_lapsing :
    FailedAll sayingExpired Console.guarded [silentListing, .listing, .listing]
      (Console.guarded.run lapsing) := by
  have hreachable : Console.guarded.Reachable := ⟨_, _, [], rfl⟩
  have hroutes : Request.listing.route ≠ Endpoint.renewal ∧
      Request.listing.route ≠ Endpoint.signIn := by decide
  have hany := Nat.zero_le
  have hallows : Console.Obeys (Allows sayingExpired 0) Console.guarded lapsing :=
    ⟨⟨_, rfl, ⟨rfl, rfl, rfl⟩, hroutes⟩, ⟨_, rfl, ⟨rfl, rfl, rfl⟩, hroutes⟩,
      hany _, hany _, hany _, ⟨hany _, fun _ _ _ _ => rfl⟩, hany _, hany _, trivial,
      .unanswered _, trivial, hany _, ⟨hany _, fun _ _ _ _ => rfl⟩, hany _,
      hany _, hany _, hany _, hany _, hany _, trivial, trivial,
      ⟨_, rfl, ⟨rfl, rfl, rfl⟩, hroutes⟩, hany _, hany _, hany _, ⟨hany _, fun _ _ _ _ => rfl⟩,
      hany _, hany _, hany _, hany _, hany _,
      hany _, hany _, hany _, hany _, hany _, hany _, trivial⟩
  refine failed_renewal expired sayingExpired hreachable rfl rfl (by decide) hallows (by decide) ?_
  rintro (_ | _ | _ | k) a _ ha
  · cases ha
    exact ⟨_, rfl⟩
  · cases ha
    exact ⟨_, rfl⟩
  · cases ha
    exact ⟨_, rfl⟩
  · cases ha

end Lapse

end AdminConsole
