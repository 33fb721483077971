import AdminConsole.Error
import AdminConsole.Json.Record
import AdminConsole.Text.Blank

/-!
# Renewing a session

A session is renewed by one request that carries the refresh token in its body and no credential
in its headers. `RenewalFailure` says why a renewal came to nothing; all who waited for it get the
same answer.
-/

namespace AdminConsole

open AdminConsole.Json

/-- Why a renewal came to nothing. -/
inductive RenewalFailure where
  | rejected (status : Status)
  | missingToken
  | network (detail : String)
  /-- The renewal itself was cut short. -/
  | aborted (detail : String)
  /-- The session was cleared or replaced in the meantime, and the new tokens were thrown away. -/
  | superseded
  deriving Repr, DecidableEq

/-- The wording of a failure. -/
def RenewalFailure.message : RenewalFailure → String
  | .rejected status => "refresh token rejected with status " ++ status.text
  | .missingToken => "renewal response did not contain an access token"
  | .network detail => "renewal request failed: " ++ detail
  | .aborted detail => "refresh task aborted: " ++ detail
  | .superseded => "session changed during renewal"

/-- The tokens that a renewal brought. -/
structure RenewedTokens where
  access : String := ""
  refresh : Option String := none
  deriving Repr, DecidableEq, Inhabited

namespace RenewedTokens

/-- Reads the tokens. -/
def ofTree? (t : Tree) : Option RenewedTokens := do
  let f ← t.fields? ["access", "refresh"]
  let access ← f.orElse "access" Tree.asString? ""
  let refresh ← f.orElse "refresh" (Tree.asOption? Tree.asString?) none
  return ⟨access, refresh⟩

/-- Reads the body of an answer to a renewal. -/
def ofBody? (body : String) : Option RenewedTokens :=
  decode? (fun t => do
    let f ← t.fields? ["tokens"]
    f.required "tokens" ofTree?) body

end RenewedTokens

namespace Renewal

/-- The request that renews a session. -/
def request (refreshToken : String) : Request :=
  { method := .post
    path := Endpoint.renewal
    body := some (.object [("refresh_token", .string refreshToken)])
    options := { bypassAuth := true } }

/-- The tokens that an answer brought, or why it brought none. -/
def tokens (answer : Except ApiError Response) : Except RenewalFailure RenewedTokens :=
  match answer with
  | .error e => .error (.network e.message)
  | .ok response =>
    if ¬ response.status.isSuccess then .error (.rejected response.status)
    else
      match RenewedTokens.ofBody? response.body with
      | none => .error .missingToken
      | some t => if Text.isBlank t.access then .error .missingToken else .ok t

end Renewal

end AdminConsole
