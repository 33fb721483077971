import AdminConsole.Proofs.Console.BoundedReplay
import AdminConsole.Proofs.Console.Moves

/-!
# Rejected requests

A request can only be rejected by an answer of status 401, or by a caller that comes with such an
answer from elsewhere: `Console.Rejects` lists the two. As long as a rejected request is neither
sent again nor given up, `Exchange.rejected?` gives it, and it was rejected in some earlier event
(`rejects_of_rejected?`). So what no rejected request of a run is like, no request is like whose
caller is still busy with a rejection (`unrejected_run_opened`).
-/

namespace AdminConsole

open AdminConsole.Time

namespace Exchange

/-- The request that was rejected, as long as it is neither sent again nor given up. -/
def rejected? : Exchange → Option Request
  | .failed request _ response => if response.status.code = 401 then some request else none
  | .joining request _ _ | .waiting request _ _ _ | .reconsidering request _ _ => some request
  | .preparing _ _ _ | .inFlight _ _ | .droppingPeer _ | .clearing _ _ | .cleared _ _
  | .redirecting _ _ _ | .navigating _ | .finished _ => none

variable {request rejected : Request} {scope : Scope} {response : Response}

theorem rejected?_failed_of_code (h : response.status.code = 401) :
    (failed request scope response).rejected? = some request := if_pos h

theorem eq_of_rejected?_failed
    (h : (failed request scope response).rejected? = some rejected) :
    request = rejected ∧ response.status.code = 401 := by
  simp only [rejected?] at h
  split at h
  · exact ⟨Option.some_inj.mp h, ‹_›⟩
  · cases h

/-- What a request is answered makes it rejected, or does not concern the rejection. -/
theorem eq_inFlight_of_rejected? {x : Exchange} {result : Except ApiError Response}
    (h : (x.answer result).rejected? = some rejected) (hnot : x.rejected? ≠ some rejected) :
    ∃ scope response, x = .inFlight rejected scope ∧ result = .ok response ∧
      response.status.code = 401 := by
  cases x with
  | inFlight request scope =>
    cases result with
    | error e => cases h
    | ok response =>
      simp only [answer] at h
      split at h
      · cases h
      · obtain ⟨rfl, hcode⟩ := eq_of_rejected?_failed h
        exact ⟨scope, response, rfl, rfl, hcode⟩
  | _ => exact absurd h hnot

end Exchange

/-- The event brings an answer to a request. -/
def Event.bringsAnswer : Event → Bool
  | .answer _ _ | .start (.recover _ _ _) => true
  | _ => false

namespace Console

variable {β : Type} {c : Console β} {caller : Nat} {rejected : Request}

/-- In this event a request of the caller is rejected: it is answered so, or the caller comes with
such an answer. -/
inductive Rejects (c : Console β) : Event → Nat → Request → Prop
  | answered {caller : Nat} {goal : Goal} {request : Request} {scope : Scope} {response : Response}
      (hcaller : c.callers[caller]? = some (.exchange goal (.inFlight request scope)))
      (hcode : response.status.code = 401) :
      Rejects c (.answer caller (.ok response)) caller request
  | reported (request : Request) (scope : Scope) {response : Response}
      (hcode : response.status.code = 401) :
      Rejects c (.start (.recover request scope response)) c.callers.length request

/-- Where nobody is answered, nobody is rejected. -/
theorem not_rejects_of_not_bringsAnswer {e : Event} (he : e.bringsAnswer = false) (k : Nat)
    (request : Request) : ¬ c.Rejects e k request := by
  intro hrejects
  cases hrejects <;> cases he

/-- No rejection of the event is one of a request like this. -/
def Spares (P : Request → Prop) (c : Console β) (e : Event) : Prop :=
  ∀ k request, c.Rejects e k request → ¬ P request

theorem spares_of_not_bringsAnswer {P : Request → Prop} {e : Event} (he : e.bringsAnswer = false) :
    c.Spares P e :=
  fun k request hrejects => absurd hrejects (not_rejects_of_not_bringsAnswer he k request)

/-- Nobody is busy with the rejection of a request like this. -/
def Unrejected (P : Request → Prop) (c : Console β) : Prop :=
  ∀ (k : Nat) (goal : Goal) (x : Exchange) (request : Request),
    c.callers[k]? = some (.exchange goal x) → x.rejected? = some request → ¬ P request

variable [Backend β]

/-- No step of a caller rejects a request. -/
theorem rejected?_of_stepExchange {now : Moment} {x : Exchange}
    (h : (c.stepExchange now caller x).1.rejected? = some rejected) :
    x.rejected? = some rejected := by
  generalize hy : (c.stepExchange now caller x).1 = y at h
  cases Exchange.stepsTo_of_stepExchange hy with
  | recovers hdecision =>
    have hcode := (FailureContext.callsForRenewal_of_decide hdecision).status
    exact (Exchange.rejected?_failed_of_code hcode).trans h
  | joins | refused | waits | failed => exact h
  | replaced => exact congrArg some (Exchange.eq_of_rejected?_failed h).1
  | _ => cases h

/-- **Rejections.** Whoever is busy with a rejection after an event was so before, or the request is
rejected in the event. -/
theorem rejects_of_rejected? {now : Moment} {e : Event} {goal : Goal} {x : Exchange}
    (hx : (c.step now e).callers[caller]? = some (.exchange goal x))
    (hrejected : x.rejected? = some rejected) :
    (∃ goal' x', c.callers[caller]? = some (.exchange goal' x') ∧ x'.rejected? = some rejected) ∨
      c.Rejects e caller rejected := by
  cases movedRequest_of_getElem? hx with
  | fresh request => cases hrejected
  | reported request scope response he hnew =>
    obtain ⟨rfl, hcode⟩ := Exchange.eq_of_rejected?_failed hrejected
    subst hnew he
    exact Or.inr (.reported request scope hcode)
  | stayed hx he => exact Or.inl ⟨goal, x, hx, hrejected⟩
  | @stepped x' hx' he => exact Or.inl ⟨goal, x', hx', rejected?_of_stepExchange hrejected⟩
  | @answered x' result hx' he =>
    by_cases hbefore : x'.rejected? = some rejected
    · exact Or.inl ⟨goal, x', hx', hbefore⟩
    · obtain ⟨scope, response, rfl, rfl, hcode⟩ :=
        Exchange.eq_inFlight_of_rejected? hrejected hbefore
      exact Or.inr (he ▸ .answered hx' hcode)

theorem Unrejected.step {P : Request → Prop} (h : c.Unrejected P) {e : Event}
    (he : c.Spares P e) (now : Moment) : (c.step now e).Unrejected P := by
  intro k goal x request hx hrejected
  rcases rejects_of_rejected? hx hrejected with ⟨goal', x', hx', hrejected'⟩ | hrejects
  · exact h k goal' x' request hx' hrejected'
  · exact he k request hrejects

theorem unrejected_run_opened {P : Request → Prop} (routes : RouteTable) (store : Store β)
    {s : List (Moment × Event)} (hs : Obeys (Spares P) (opened routes store) s) :
    ((opened routes store : Console β).run s).Unrejected P :=
  run_induction (P := Unrejected P) (fun _ now _ h he => h.step he now)
    (fun _ _ _ _ hx => by cases hx) hs

end Console

end AdminConsole
