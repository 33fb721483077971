import AdminConsole.Http.Path

/-!
# Scopes and routes

The path of a request decides which credential it carries and what becomes of it when the
credential is rejected. A `RouteTable` is a list of prefixes with their scopes, the longest first,
so that the order of declaration only matters between two entries with one prefix, of which the
first counts. A prefix covers whole segments of a path: `/a/login` covers `/a/login` and
`/a/login/x` but not `/a/login_status`, while a prefix that ends in a slash covers all that follows.
-/

namespace AdminConsole

/-- Which credential a request carries and which policy applies when it is rejected. -/
inductive Scope where
  /-- Endpoints guarded by the session. -/
  | primary
  /-- The tunnel server of this instance, and the pass-through to a federation peer. -/
  | tunnelClientOrServer
  /-- The older tunnel endpoints. -/
  | tunnelGeneric
  /-- Public endpoints, which carry nothing. -/
  | unscoped
  deriving Repr, DecidableEq, Inhabited

/-- The name of a scope in messages. -/
def Scope.displayName : Scope → String
  | .primary => "primary"
  | .tunnelClientOrServer => "tunnel client/server"
  | .tunnelGeneric => "tunnel"
  | .unscoped => "unscoped"

/-! ### The paths of the interface -/

namespace Endpoint

/-- Renews a session. -/
def renewal : String := "/api/v1/token/renew"

/-- Signs a user in; also the page that a user without session is sent to. -/
def signIn : String := "/api/v1/user/sign/in"

/-- Signs a user out. -/
def signOut : String := "/api/v1/user/sign/out"

/-- Tells who is signed in. -/
def whoAmI : String := "/api/v1/auth/me"

/-- Signs in to the tunnel server of this instance. -/
def tunnelLogin : String := "/api/v1/tunnel/login"

/-- Requests below this prefix are passed through to the selected federation peer. -/
def proxy : String := "/api/v1/tunnel/proxy/"

end Endpoint

/-! ### Route tables -/

/-- A prefix with its scope. -/
abbrev Route := String × Scope

/-- Whether `a` is to be tried before `b`: the longer prefix first, prefixes of one length in
order. -/
def Route.precedes (a b : Route) : Bool :=
  if a.1.utf8ByteSize = b.1.utf8ByteSize then a.1 ≤ b.1 else b.1.utf8ByteSize < a.1.utf8ByteSize

/-- Drops each entry whose prefix is that of the entry before it. -/
def Route.dropRepeats : List Route → List Route
  | [] => []
  | [r] => [r]
  | r :: s :: rest =>
    if r.1 = s.1 then dropRepeats (r :: rest) else r :: dropRepeats (s :: rest)
termination_by rs => rs.length

/-- Prefixes with their scopes, in the order in which they are tried. -/
structure RouteTable where
  routes : List Route
  deriving Repr, DecidableEq

namespace RouteTable

/-- The table with these entries. -/
def ofList (routes : List Route) : RouteTable :=
  ⟨Route.dropRepeats (routes.mergeSort Route.precedes)⟩

/-- Whether a prefix covers a path: it is the whole path, or the next segment begins behind it. -/
def covers (start path : String) : Bool :=
  start.toList.isPrefixOf path.toList &&
    (start.toList.getLast? == some '/' ||
      match path.toList.drop start.toList.length with
      | [] => true
      | c :: _ => c == '/')

/-- The scope of a path: that of the first entry that covers its part before any query or
fragment, and the session's own if there is none. -/
def classify (t : RouteTable) (path : String) : Scope :=
  let route := Path.cut path
  match t.routes.find? fun r => covers r.1 route with
  | some r => r.2
  | none => .primary

/-- The routes of an instance. -/
def standard : RouteTable :=
  .ofList
    [ (Endpoint.proxy, .tunnelClientOrServer),
      ("/api/v1/tunnel/domains", .tunnelClientOrServer),
      ("/api/v1/tunnel/user_info", .tunnelClientOrServer),
      (Endpoint.tunnelLogin, .unscoped),
      ("/api/v1/tunnel/register", .unscoped),
      ("/api/v1/tunnel/auth/login", .unscoped),
      ("/api/v1/tunnel/auth/register", .unscoped),
      ("/api/v1/tunnel/auth/callback", .unscoped),
      ("/api/v1/tunnel/", .tunnelGeneric),
      (Endpoint.signIn, .unscoped),
      ("/api/v1/user/sign/up", .unscoped),
      ("/api/v1/auth/setup", .unscoped),
      (Endpoint.renewal, .unscoped) ]

end RouteTable

end AdminConsole
