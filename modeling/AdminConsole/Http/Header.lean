/-!
# Headers

A text may stand in a header if none of its bytes is a control character other than the tab. Read
back as text it is only visible when all its characters are ASCII: a header with other characters
is there but says nothing.

The console itself sets two headers of a request. The others are the caller's, and are sent as they
are.
-/

namespace AdminConsole

namespace HeaderValue

/-- A text that may stand in a header. -/
def isValid (s : String) : Bool :=
  s.toList.all fun c => c == '\t' || (' ' ≤ c && c != '\x7f')

/-- A header value that can be read back as text. -/
def isReadable (s : String) : Bool :=
  s.toList.all fun c => c == '\t' || (' ' ≤ c && c ≤ '~')

/-- The scheme that a bearer token stands behind. -/
def bearerScheme : String := "Bearer "

/-- The header value that carries a bearer token, if the token may stand in a header. -/
def ofBearer? (token : String) : Option String :=
  let v := bearerScheme ++ token
  if isValid v then some v else none

/-- The bearer token that a header value carries, if the value can be read and has the scheme. -/
def bearer? (v : String) : Option String :=
  if isReadable v && bearerScheme.toList.isPrefixOf v.toList then
    some (String.ofList (v.toList.drop bearerScheme.length))
  else none

end HeaderValue

namespace Headers

/-- The name of the header that carries a bearer token. The names of headers are in lower case. -/
def authorizationName : String := "authorization"

/-- The name of the header that carries a tunnel token. -/
def tunnelTokenName : String := "x-tunnel-token"

end Headers

/-- A header that carries no credential of the console: one that a caller has added to a request. -/
structure Header where
  name : String
  value : String
  plain : name ≠ Headers.authorizationName ∧ name ≠ Headers.tunnelTokenName
  deriving Repr, DecidableEq

/-- The headers of a request: those that carry credentials, of which there is one each at most, and
any others, of which several may have one name. -/
structure Headers where
  authorization : Option String := none
  tunnelToken : Option String := none
  others : List Header := []
  deriving Repr, DecidableEq, Inhabited

namespace Headers

/-- The bearer token in the headers, as far as it can be read back. -/
def bearer (h : Headers) : Option String := h.authorization.bind HeaderValue.bearer?

/-- All headers, each as its name and its value. -/
def entries (h : Headers) : List (String × String) :=
  (h.authorization.map (authorizationName, ·)).toList ++
    (h.tunnelToken.map (tunnelTokenName, ·)).toList ++ h.others.map fun x => (x.name, x.value)

/-- How many headers there are. -/
def count (h : Headers) : Nat := h.entries.length

/-- The values that stand under a name. -/
def values (h : Headers) (name : String) : List String :=
  (h.entries.filter (·.1 == name)).map Prod.snd

end Headers

end AdminConsole
