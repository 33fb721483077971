import AdminConsole.Error

/-!
# What becomes of a failed request

`decide` looks at a response that was no success, at what the request carried and at what the store
holds now. Only a rejected credential (status 401) of a request of the session's own scope is a
reason to renew the session, and only once per request.
-/

namespace AdminConsole

/-- What becomes of a failed request. -/
inductive AuthDecision where
  /-- The caller gets the error as it is. -/
  | propagate
  /-- The federation peer is dropped and the scope reported. -/
  | invalidateContext
  /-- The scope is reported; the session is not involved. -/
  | scopeFailure
  /-- The session is cleared and the user sent to the login page. -/
  | terminal
  /-- The token was replaced in the meantime: the request is sent again with the current one. -/
  | replayWithCurrent (token : String)
  /-- The session is renewed, and then the request is sent again. -/
  | recover
  deriving Repr, DecidableEq, Inhabited

/-- What the decision looks at. -/
structure FailureContext where
  status : Status
  scope : Scope
  retried : Bool := false
  targetsRenewal : Bool := false
  refreshAvailable : Bool := false
  /-- The bearer token that the failed request carried. -/
  sentAccess : Option String := none
  /-- The access token that the store holds now. -/
  currentAccess : Option String := none
  deriving Repr, DecidableEq

/-- The token that has taken the place of the one that was sent, if there is one. -/
def replacement? (current sent : Option String) : Option String :=
  match current with
  | some token => if sent = some token then none else some token
  | none => none

/-- What becomes of a failed request. -/
def FailureContext.decide (c : FailureContext) : AuthDecision :=
  if c.status.code ≠ 401 then .propagate
  else
    match c.scope with
    | .tunnelClientOrServer => .invalidateContext
    | .tunnelGeneric => .scopeFailure
    | .unscoped => if c.retried || c.targetsRenewal then .terminal else .propagate
    | .primary =>
      if c.retried || c.targetsRenewal then .terminal
      else
        match replacement? c.currentAccess c.sentAccess with
        | some token => .replayWithCurrent token
        | none => if c.refreshAvailable then .recover else .terminal

/-- The context of a failed request, given the session as it is now. -/
def FailureContext.of (request : Request) (scope : Scope) (response : Response)
    (access refresh : Option String) : FailureContext :=
  { status := response.status
    scope := scope
    retried := request.retried
    targetsRenewal := request.route == Endpoint.renewal
    refreshAvailable := refresh.isSome
    sentAccess := request.bearer
    currentAccess := access }

/-- The error that says which scope's credential was rejected. -/
def scopeFailure (scope : Scope) (rejection : ApiError) : ApiError :=
  .scopeUnauthorized scope rejection.said

end AdminConsole
