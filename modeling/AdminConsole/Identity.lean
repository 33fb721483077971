import AdminConsole.Credentials.Basic
import AdminConsole.Error
import AdminConsole.Json.Printer
import AdminConsole.Json.Record

/-!
# Users, and the answers of the identity endpoints

An answer is an `Envelope` with an error flag, a message and the data proper. Signing in answers
with a pair of tokens instead. An empty body reads as null.
-/

namespace AdminConsole

open AdminConsole.Json

/-- A signed-in user. -/
structure UserInfo where
  id : Option Int64 := none
  email : String := ""
  userRole : String := "user"
  allowedMenus : List String := []
  deriving Repr, DecidableEq, Inhabited

namespace UserInfo

/-- The role of administrators. -/
def adminRole : String := "admin"

/-- The user is an administrator. -/
def isAdmin (u : UserInfo) : Bool := u.userRole == adminRole

/-- The user may see a menu. -/
def canSeeMenu (u : UserInfo) (path : String) : Bool := u.allowedMenus.contains path

/-- Reads a user. -/
def ofTree? (t : Tree) : Option UserInfo := do
  let f ← t.fields? ["id", "email", "user_role", "allowed_menus"]
  let id ← f.optional "id" Tree.asInt64?
  let email ← f.orElse "email" Tree.asString? ""
  let userRole ← f.orElse "user_role" Tree.asString? "user"
  let allowedMenus ← f.orElse "allowed_menus" (Tree.asList? Tree.asString?) []
  return ⟨id, email, userRole, allowedMenus⟩

/-- A user as JSON. -/
def toJson (u : UserInfo) : Json :=
  .object
    [ ("id", match u.id with | some i => .int i.toInt | none => .null),
      ("email", .string u.email),
      ("user_role", .string u.userRole),
      ("allowed_menus", .array (u.allowedMenus.map .string)) ]

end UserInfo

/-- The common form of answers. -/
structure Envelope (α : Type) where
  error : Bool := false
  msg : Option String := none
  data : Option α := none
  deriving Repr

/-- Reads an envelope, given how to read the data in it. -/
def Envelope.ofTree? {α : Type} (read : Tree → Option α) (t : Tree) : Option (Envelope α) := do
  let f ← t.fields? ["error", "msg", "data"]
  let error ← f.orElse "error" Tree.asBool? false
  let msg ← f.orElse "msg" (Tree.asOption? Tree.asString?) none
  let data ← f.optional "data" read
  return ⟨error, msg, data⟩

/-- Any value as the data of an envelope, which takes one level of nesting for itself. -/
def Envelope.anyData? : Tree → Option Json := Tree.toJson? (depthLimit - 1)

namespace Identity

/-- Reads the body of a response. An empty one reads as null. -/
def decodeBody? {α : Type} (read : Tree → Option α) (body : String) : Option α :=
  decode? read (if Text.isBlank body then "null" else body)

/-- What a response to a request for a path means, or the error if it cannot be read. -/
def decodeResponse {α : Type} (read : Tree → Option α) (path : String) (response : Response) :
    Except ApiError α :=
  match decodeBody? read response.body with
  | some a => .ok a
  | none => .error (.invalidResponse (.unreadable path))

/-! ### Signing in -/

/-- The request that signs a user in. -/
def signInRequest (email password : String) : Request :=
  { method := .post
    path := Endpoint.signIn
    body := some (.object [("email", .string email), ("password", .string password)]) }

/-- Reads the tokens that signing in answers with. The access token has to be there. -/
def signInTokens? (t : Tree) : Option TokenPair := do
  let f ← t.fields? ["tokens"]
  f.required "tokens" fun t => do
    let f ← t.fields? ["access", "refresh"]
    let access ← f.required "access" Tree.asString?
    let refresh ← f.orElse "refresh" Tree.asString? ""
    return TokenPair.ofTexts access refresh

/-- The session that signing in answers with. -/
def signedIn (answer : Except ApiError Response) : Except ApiError TokenPair := do
  let pair ← decodeResponse signInTokens? Endpoint.signIn (← answer)
  if pair.access.isSome then return pair else throw (.invalidResponse .noAccessToken)

/-! ### Signing out -/

/-- The request that signs a user out. -/
def signOutRequest : Request :=
  { method := .post
    path := Endpoint.signOut
    body := some (.object [])
    options := { silent := true } }

/-! ### Asking who is signed in -/

/-- The request for the signed-in user. -/
def whoAmIRequest : Request :=
  { method := .get, path := Endpoint.whoAmI, options := { silent := true } }

/-- The signed-in user. -/
def user (answer : Except ApiError Response) : Except ApiError UserInfo := do
  let envelope ← decodeResponse (Envelope.ofTree? UserInfo.ofTree?) Endpoint.whoAmI (← answer)
  match envelope.data with
  | some u => return u
  | none => throw (.invalidResponse .noUser)

/-! ### Signing in to the tunnel server -/

/-- The request that signs a user in to the tunnel server. -/
def tunnelLoginRequest (username password : String) : Request :=
  { method := .post
    path := Endpoint.tunnelLogin
    body := some (.object [("password", .string password), ("username", .string username)]) }

/-- Reads the token of the tunnel server. -/
def tunnelToken? (t : Tree) : Option String := do
  let f ← t.fields? ["token"]
  f.required "token" Tree.asString?

/-- The token that signing in to the tunnel server answers with. -/
def tunnelSignedIn (answer : Except ApiError Response) : Except ApiError String := do
  let envelope ← decodeResponse (Envelope.ofTree? tunnelToken?) Endpoint.tunnelLogin (← answer)
  match envelope.data with
  | some token => return token
  | none => throw (.invalidResponse (.noTunnelToken envelope.msg))

end Identity

end AdminConsole
