import AdminConsole.Http.Header
import AdminConsole.Http.Path
import AdminConsole.Http.Status
import AdminConsole.Json.Basic

/-!
# Requests and responses

A `Request` is what the console wants to send: everything except the address of the server it goes
to by default. A request that is sent again after its credential was renewed differs from the first
one in its bearer token and in the mark `retried`, which is never taken away.
-/

namespace AdminConsole

/-- A request method. -/
structure Method where
  name : String
  deriving Repr, DecidableEq, Inhabited

namespace Method

/-- A character of an HTTP token. -/
def isTokenChar (c : Char) : Bool :=
  ('a' ≤ c && c ≤ 'z') || ('A' ≤ c && c ≤ 'Z') || ('0' ≤ c && c ≤ '9') ||
    "!#$%&'*+-.^_|~".toList.contains c || c.toNat == 0x60

/-- The method with a name, which has to be a token of one character at least. -/
def ofName? (name : String) : Option Method :=
  if name.toList ≠ [] ∧ name.toList.all isTokenChar then some ⟨name⟩ else none

def get : Method := ⟨"GET"⟩
def post : Method := ⟨"POST"⟩
def put : Method := ⟨"PUT"⟩
def patch : Method := ⟨"PATCH"⟩
def delete : Method := ⟨"DELETE"⟩

end Method

/-- How a caller wants a request to be treated. -/
structure Options where
  /-- Never send the user to the login page on account of this request. -/
  silent : Bool := false
  /-- Attach no credential. -/
  bypassAuth : Bool := false
  /-- Where to send the request instead of the configured address. -/
  baseUrl : Option String := none
  deriving Repr, DecidableEq, Inhabited

/-- A request. -/
structure Request where
  method : Method
  path : String
  body : Option Json := none
  headers : Headers := {}
  options : Options := {}
  /-- Set once the request is sent again after a renewal. -/
  retried : Bool := false
  deriving Repr, Inhabited

namespace Request

/-- The bearer token the request carries, as far as it can be read back. -/
def bearer (r : Request) : Option String := r.headers.bearer

/-- The request with the bearer token of a header value. -/
def withAuthorization (r : Request) (value : String) : Request :=
  { r with headers := { r.headers with authorization := some value } }

/-- The path without query and fragment. -/
def route (r : Request) : String := Path.cut r.path

/-- The request as it is sent again with a new token, if the token may stand in a header. -/
def replayWith? (r : Request) (token : String) : Option Request :=
  (HeaderValue.ofBearer? token).map fun v => { r.withAuthorization v with retried := true }

end Request

/-! ### Addresses -/

/-- What hands requests over, as far as it matters to where they go. -/
structure Transport where
  /-- The address below which requests go that do not name one of their own. -/
  baseUrl : String

namespace Transport

/-- The transport for a configured address, which is kept without the slashes behind it. -/
def ofBaseUrl (configured : String) : Transport := ⟨Address.base configured⟩

/-- Where a request goes. The slashes behind an address that the request names itself are left out
here; those of the transport's were when it was made. -/
def urlFor (t : Transport) (r : Request) : String :=
  match r.options.baseUrl with
  | some own => Address.below (Address.base own) r.path
  | none => Address.below t.baseUrl r.path

end Transport

namespace Request

/-- Where the request goes, given the configured address. -/
def address (r : Request) (configured : String) : String :=
  (Transport.ofBaseUrl configured).urlFor r

/-- In both places the same slashes are left out. -/
theorem address_eq_join (r : Request) (configured : String) :
    r.address configured = Address.join (r.options.baseUrl.getD configured) r.path := by
  rw [address, Transport.urlFor]
  cases r.options.baseUrl <;> rfl

end Request

/-- What a server answered. Every status is an answer. -/
structure Response where
  status : Status
  body : String
  deriving Repr, DecidableEq, Inhabited

end AdminConsole
