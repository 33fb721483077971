import AdminConsole.Http.Request
import AdminConsole.Json.Reader
import AdminConsole.Route
import AdminConsole.Text.Utf8

/-!
# What a call can end in

`ApiError` says why a call gave no answer. `ofResponse` is the error that a response stands for,
and `saidIn` the message that a server put into its body: the member `msg`, or else the body
itself, of which no more than 500 bytes are shown.
-/

namespace AdminConsole

open AdminConsole.Text

/-- What is wrong with a request that was never sent. -/
inductive RequestFault where
  | bodyNotSerializable (detail : String)
  | credentialNotHeaderValue
  | tunnelTokenNotHeaderValue
  /-- As a transport reports it. -/
  | reported (text : String)
  deriving Repr, DecidableEq, Inhabited

/-- The wording of a fault. -/
def RequestFault.text : RequestFault → String
  | .bodyNotSerializable detail => "body is not serializable: " ++ detail
  | .credentialNotHeaderValue => "credential is not a valid header value"
  | .tunnelTokenNotHeaderValue => "tunnel token is not a valid header value"
  | .reported text => text

/-- What is wrong with a response. -/
inductive ResponseFault where
  | unreadable (path : String)
  | noAccessToken
  | noUser
  | noTunnelToken (said : Option String)
  | unexpectedStatus (status : Status) (said : String)
  deriving Repr, DecidableEq, Inhabited

/-- The wording of a fault. -/
def ResponseFault.text : ResponseFault → String
  | .unreadable path => "Failed to parse response from " ++ path ++ ": "
  | .noAccessToken => "sign in returned no access token"
  | .noUser => "auth/me returned no data"
  | .noTunnelToken said => said.getD "tunnel login returned no token"
  | .unexpectedStatus status said => "Status " ++ status.text ++ ": " ++ said

/-- Why a call gave no answer. -/
inductive ApiError where
  /-- The session could not be recovered and has been cleared. -/
  | sessionExpired (said : String)
  /-- A tunnel or federation credential was rejected; the session is not involved. -/
  | scopeUnauthorized (scope : Scope) (said : String)
  | unauthorized (said : String)
  | accessDenied (said : String)
  | notFound (said : String)
  | rateLimited
  | serverError (said : String)
  | network (detail : String)
  | invalidRequest (fault : RequestFault)
  | invalidResponse (fault : ResponseFault)
  deriving Repr, DecidableEq, Inhabited

namespace ApiError

/-- The wording of an error. -/
def message : ApiError → String
  | .sessionExpired said => "Session expired - please log in again (" ++ said ++ ")"
  | .scopeUnauthorized scope said => scope.displayName ++ " credential rejected: " ++ said
  | .unauthorized said => "Unauthorized: " ++ said
  | .accessDenied said => "Access denied: " ++ said
  | .notFound said => "Resource not found: " ++ said
  | .rateLimited => "Rate limited - please wait before retrying"
  | .serverError said => "Server error: " ++ said
  | .network detail => "Network error: " ++ detail
  | .invalidRequest fault => "Invalid request: " ++ fault.text
  | .invalidResponse fault => "Invalid response: " ++ fault.text

/-- What an error says without the words that name its kind. -/
def said : ApiError → String
  | .sessionExpired said | .scopeUnauthorized _ said | .unauthorized said | .accessDenied said
  | .notFound said | .serverError said => said
  | .rateLimited => message .rateLimited
  | .network detail => detail
  | .invalidRequest fault => fault.text
  | .invalidResponse fault => fault.text

/-- How many bytes of a body are shown. -/
def shownBytes : Nat := 500

/-- A body as it is shown. A long one is cut at the place that a search backwards, byte by byte,
first finds between two characters. -/
def excerpt (body : String) : String :=
  if body.utf8ByteSize ≤ shownBytes then body
  else (body.sliceTo (body.posLE ⟨shownBytes⟩)).copy ++ "... (truncated, " ++
    natText body.utf8ByteSize ++ " total bytes)"

/-- The message that a server put into a body: its member `msg`, if that is a text and not empty,
or else the body itself. -/
def saidIn (body : String) : String :=
  match (Json.parse? body).bind fun v => (v.member? "msg").bind Json.string? with
  | some msg => if msg = "" then excerpt body else msg
  | none => excerpt body

/-- The error that a response stands for. -/
def ofResponse (r : Response) : ApiError :=
  let said := saidIn r.body
  if r.status.code = 401 then .unauthorized said
  else if r.status.code = 403 then .accessDenied said
  else if r.status.code = 404 then .notFound said
  else if r.status.code = 429 then .rateLimited
  else if r.status.isServerError then .serverError said
  else .invalidResponse (.unexpectedStatus r.status said)

end ApiError

/-- The request with a body, unless the body could not be written as JSON. -/
def Request.withBody (r : Request) : Except String Json → Except ApiError Request
  | .ok body => .ok { r with body := some body }
  | .error detail => .error (.invalidRequest (.bodyNotSerializable detail))

end AdminConsole
