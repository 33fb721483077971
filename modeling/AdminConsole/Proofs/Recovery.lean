import AdminConsole.Recovery

/-!
# When a failed request is recovered from

Of the decisions on a failed request only `AuthDecision.recover` leads to a renewal.
`Request.CallsForRenewal` is what it takes for that decision; it does not depend on the session, so
it is still true when the caller looks at the session again. What the session decides is told by
`FailureContext.decide_of_isRecoverable`: the first failure of a request is answered with the token
that the store holds now, if it is not the one that was sent, and with a renewal otherwise.
-/

namespace AdminConsole

/-! ### Tokens that were replaced -/

/-- No token has taken the place of the one that was sent. -/
theorem replacement?_eq_none_iff {current sent : Option String} :
    replacement? current sent = none ↔ current = none ∨ current = sent := by
  cases current with
  | none => simp [replacement?]
  | some token =>
    simp only [replacement?, ite_eq_left_iff, reduceCtorEq, imp_false, Decidable.not_not, false_or]
    exact eq_comm

theorem replacement?_eq_some_iff {current sent : Option String} {token : String} :
    replacement? current sent = some token ↔ current = some token ∧ sent ≠ some token := by
  cases current with
  | none => simp [replacement?]
  | some held =>
    simp only [replacement?]
    split <;> rename_i h
    · refine iff_of_false (by simp) fun ⟨heq, hne⟩ => hne (h.trans heq)
    · refine ⟨fun heq => ⟨heq, heq ▸ h⟩, fun heq => heq.1⟩

/-! ### What a rejection says -/

/-- No success is rejected. -/
theorem Status.isSuccess_of_unauthorized {s : Status} (h : s.code = 401) :
    s.isSuccess = false := by
  rw [isSuccess, h]
  rfl

namespace ApiError

variable {response : Response}

/-- As long as nothing is known of its scope, a rejection is just that. -/
theorem ofResponse_of_unauthorized (h : response.status.code = 401) :
    ofResponse response = .unauthorized (saidIn response.body) := by
  rw [ofResponse, if_pos h]

theorem said_ofResponse_of_unauthorized (h : response.status.code = 401) :
    (ofResponse response).said = saidIn response.body := by
  rw [ofResponse_of_unauthorized h, said]

end ApiError

/-! ### Decisions -/

/-- A request that was not sent again yet and does not itself renew the session. -/
structure Request.IsRecoverable (request : Request) : Prop where
  unsent : request.retried = false
  route_ne : request.route ≠ Endpoint.renewal

/-- A failed request that is a reason to renew the session. -/
structure Request.CallsForRenewal (request : Request) (scope : Scope) (response : Response) :
    Prop where
  scope : scope = .primary
  status : response.status.code = 401
  recoverable : request.IsRecoverable

/-- The request is to be sent again, at once or after a renewal. -/
def AuthDecision.sendsAgain : AuthDecision → Bool
  | .replayWithCurrent _ | .recover => true
  | .propagate | .invalidateContext | .scopeFailure | .terminal => false

namespace FailureContext

variable {request : Request} {scope : Scope} {response : Response}

/-- Only a rejected credential is a reason to look at the session. -/
theorem decide_of_code_ne (hcode : response.status.code ≠ 401) (access refresh : Option String) :
    (FailureContext.of request scope response access refresh).decide = .propagate := by
  simp only [FailureContext.of, decide, ne_eq, hcode, not_false_eq_true, if_true]

/-- What becomes of the first failure of a request. -/
theorem decide_of_isRecoverable (h : request.IsRecoverable)
    (hstatus : response.status.code = 401) (access refresh : Option String) :
    (FailureContext.of request .primary response access refresh).decide =
      match replacement? access request.bearer with
      | some token => .replayWithCurrent token
      | none => if refresh.isSome then .recover else .terminal := by
  have hroute : (request.route == Endpoint.renewal) = false := beq_false_of_ne h.route_ne
  cases hreplaced : replacement? access request.bearer <;>
    simp only [FailureContext.of, decide, hstatus, h.unsent, hroute, hreplaced, ne_eq,
      not_true_eq_false, if_false, Bool.or_self, Bool.false_eq_true]

/-- A request that was sent again ends the session when it is rejected. -/
theorem decide_of_retried (hretried : request.retried = true)
    (hstatus : response.status.code = 401) (access refresh : Option String) :
    (FailureContext.of request .primary response access refresh).decide = .terminal := by
  simp only [FailureContext.of, decide, hstatus, hretried, ne_eq, not_true_eq_false, if_false,
    Bool.true_or, if_true]

/-- A rejected request to where sessions are renewed ends the session. -/
theorem decide_of_route_eq (hroute : request.route = Endpoint.renewal)
    (hstatus : response.status.code = 401) (access refresh : Option String) :
    (FailureContext.of request .primary response access refresh).decide = .terminal := by
  have htargets : (request.route == Endpoint.renewal) = true := beq_iff_eq.mpr hroute
  simp only [FailureContext.of, decide, hstatus, htargets, ne_eq, not_true_eq_false, if_false,
    Bool.or_true, if_true]

/-- What it takes for a request to be sent again. -/
theorem callsForRenewal_of_sendsAgain {access refresh : Option String}
    (h : (FailureContext.of request scope response access refresh).decide.sendsAgain = true) :
    request.CallsForRenewal scope response := by
  by_cases hcode : response.status.code = 401
  case neg =>
    simp only [FailureContext.of, decide, ne_eq, hcode, not_false_eq_true, if_true] at h
    cases h
  simp only [FailureContext.of, decide, ne_eq, hcode, not_true_eq_false, if_false] at h
  cases scope with
  | tunnelClientOrServer => cases h
  | tunnelGeneric => cases h
  | unscoped =>
    cases hfirst : request.retried || request.route == Endpoint.renewal <;>
      simp [hfirst, AuthDecision.sendsAgain] at h
  | primary =>
    cases hfirst : request.retried || request.route == Endpoint.renewal with
    | true => simp [hfirst, AuthDecision.sendsAgain] at h
    | false =>
      simp only [Bool.or_eq_false_iff, beq_eq_false_iff_ne] at hfirst
      exact ⟨rfl, hcode, hfirst.1, hfirst.2⟩

/-- What it takes for a renewal. -/
theorem callsForRenewal_of_decide {access refresh : Option String}
    (h : (FailureContext.of request scope response access refresh).decide = .recover) :
    request.CallsForRenewal scope response :=
  callsForRenewal_of_sendsAgain (by rw [h]; rfl)

/-! ### Decisions read backwards -/

/-- What is known of a failed request once it is decided what becomes of it, whatever the session
was. -/
inductive Decides (request : Request) (scope : Scope) (response : Response) : AuthDecision → Prop
  | otherwise (hcode : response.status.code ≠ 401) : Decides request scope response .propagate
  | unguarded (hcode : response.status.code = 401) (hscope : scope = .unscoped)
      (hrequest : request.IsRecoverable) : Decides request scope response .propagate
  | peer (hcode : response.status.code = 401) (hscope : scope = .tunnelClientOrServer) :
      Decides request scope response .invalidateContext
  | tunnel (hcode : response.status.code = 401) (hscope : scope = .tunnelGeneric) :
      Decides request scope response .scopeFailure
  | lost (hcode : response.status.code = 401)
      (hscope : scope = .primary ∨ scope = .unscoped ∧ ¬ request.IsRecoverable) :
      Decides request scope response .terminal
  | again {d : AuthDecision} (hd : d.sendsAgain = true)
      (hcalls : request.CallsForRenewal scope response) : Decides request scope response d

theorem isRecoverable_iff : request.IsRecoverable ↔
    (request.retried || request.route == Endpoint.renewal) = false := by
  simp only [Bool.or_eq_false_iff, beq_eq_false_iff_ne]
  exact ⟨fun h => ⟨h.unsent, h.route_ne⟩, fun h => ⟨h.1, h.2⟩⟩

/-- **Decisions.** -/
theorem decides (request : Request) (scope : Scope) (response : Response)
    (access refresh : Option String) :
    Decides request scope response
      (FailureContext.of request scope response access refresh).decide := by
  by_cases hcode : response.status.code = 401
  case neg =>
    rw [decide_of_code_ne hcode]
    exact .otherwise hcode
  cases hsends : (FailureContext.of request scope response access refresh).decide.sendsAgain with
  | true => exact .again hsends (callsForRenewal_of_sendsAgain hsends)
  | false =>
    have hfirst : request.IsRecoverable ↔ _ := isRecoverable_iff
    cases hmarked : request.retried || request.route == Endpoint.renewal <;>
      rw [hmarked] at hfirst <;>
      simp only [FailureContext.of, decide, hcode, hmarked, ne_eq, not_true_eq_false, if_false,
        if_true, Bool.false_eq_true] at hsends ⊢ <;>
      cases scope
    case false.unscoped => exact .unguarded hcode rfl (hfirst.mpr rfl)
    case true.unscoped =>
      exact .lost hcode (Or.inr ⟨rfl, fun h => Bool.noConfusion (hfirst.mp h)⟩)
    case true.primary => exact .lost hcode (Or.inl rfl)
    case false.primary =>
      -- a first failure that is not answered by sending again has found no refresh token
      cases hreplaced : replacement? access request.bearer with
      | some token =>
        simp only [hreplaced] at hsends
        cases hsends
      | none =>
        cases refresh with
        | some refreshToken =>
          simp only [hreplaced, Option.isSome_some, if_true] at hsends
          cases hsends
        | none =>
          simp only [Option.isSome_none, Bool.false_eq_true, if_false]
          exact .lost hcode (Or.inl rfl)
    all_goals first | exact .peer hcode rfl | exact .tunnel hcode rfl

end FailureContext

end AdminConsole
