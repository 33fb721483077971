import AdminConsole.Http.Host
import AdminConsole.Text.Alphanumeric

/-!
# URLs

An address becomes a `Url` before anything is sent to it. Reading is lenient: blanks and control
characters around the address are dropped, and so are tabs and line ends within. What may not stand
in a URL is percent-encoded in the result, while escapes that are already there stay as they are.
Segments of one or two dots are resolved, a host is brought to one spelling, and the number of the
service behind it is left out where it is that of the scheme.

What follows the scheme is read in one of three ways. The schemes of the web name a host, behind any
number of slashes, and a backslash counts as a slash. Behind `file` a host may be missing, and a
path may begin with the letter of a drive. All other schemes name a host only behind two slashes,
and need not have a path of segments at all.
-/

namespace AdminConsole

open AdminConsole.Text

/-- The part of a URL that tells where something is, and who asks for it. -/
structure Authority where
  user : String := ""
  password : Option String := none
  host : Option UrlHost := none
  /-- The number of the service at the host, where it is not that of the scheme. -/
  service : Option Nat := none
  deriving Repr, DecidableEq, Inhabited

/-- What a URL is about. -/
inductive UrlPath where
  | segments (names : List String)
  /-- A text without segments. -/
  | whole (text : String)
  deriving Repr, DecidableEq, Inhabited

/-- An absolute URL. -/
structure Url where
  scheme : String
  authority : Option Authority := none
  path : UrlPath
  query : Option String := none
  fragment : Option String := none
  deriving Repr, DecidableEq, Inhabited

namespace Authority

/-- The host as it stands in a URL, with the number of the service where it is not that of the
scheme. -/
def place (a : Authority) : String :=
  (a.host.map UrlHost.text).getD "" ++ (a.service.map fun n => ":" ++ natText n).getD ""

/-- The user in front of a host. -/
def userText (a : Authority) : String :=
  if a.user = "" ∧ a.password = none then ""
  else a.user ++ (a.password.map (":" ++ ·)).getD "" ++ "@"

end Authority

namespace Url

/-! ### Schemes -/

/-- How what follows a scheme is read. -/
inductive Kind where
  | web
  | file
  | other
  deriving Repr, DecidableEq

/-- How what follows a scheme is read. -/
def kind (scheme : String) : Kind :=
  if scheme ∈ ["http", "https", "ws", "wss", "ftp"] then .web
  else if scheme = "file" then .file
  else .other

/-- The number of the service that a scheme stands for. -/
def usualService? : String → Option Nat
  | "http" | "ws" => some 80
  | "https" | "wss" => some 443
  | "ftp" => some 21
  | _ => none

/-- A character of a scheme behind its first, which is a letter. -/
def isSchemeChar (c : Char) : Bool := isAsciiAlphanumeric c || c == '+' || c == '-' || c == '.'

/-- The scheme of an address in lower case, and what follows the colon. -/
def scheme? (cs : List Char) : Option (String × List Char) :=
  let scheme := cs.takeWhile isSchemeChar
  match scheme, cs.drop scheme.length with
  | c :: _, ':' :: rest =>
    if isDigit c ∨ ¬ isAsciiAlphanumeric c then none
    else some (String.ofList (scheme.map Char.toLower), rest)
  | _, _ => none

/-- A slash, or what counts as one. -/
def isSlash (k : Kind) (c : Char) : Bool := c == '/' || (c == '\\' && k != .other)

/-! ### What may not stand in a part -/

/-- What may not stand in a fragment. -/
def fragmentForbidden : List Char := [' ', '"', '<', '>', '\x60']

/-- What may not stand in a path. -/
def pathForbidden : List Char := fragmentForbidden ++ ['#', '?', '\x7b', '\x7d']

/-- What may not stand in the name or the password of a user. -/
def userForbidden : List Char := pathForbidden ++ "/:;=@[\\]^|".toList

/-- What may not stand in a query. -/
def queryForbidden (k : Kind) : List Char :=
  [' ', '"', '#', '<', '>'] ++ if k = .other then [] else ['\x27']

/-- A part of a URL as it is written. -/
def written (forbidden cs : List Char) : String := String.ofList (Percent.encode forbidden cs)

/-! ### Paths -/

/-- A segment with its escaped dots in plain. -/
def plainDots : List Char → List Char
  | '%' :: '2' :: 'e' :: r | '%' :: '2' :: 'E' :: r => '.' :: plainDots r
  | c :: r => c :: plainDots r
  | [] => []

/-- The letter of a drive, and the mark behind it. -/
def isDrive : List Char → Bool
  | [c, mark] => isAsciiAlphanumeric c && !isDigit c && (mark == ':' || mark == '|')
  | _ => false

/-- A path, last segment first, without its last segment. A drive is never left. -/
def ascend : List String → List String
  | [] => []
  | s :: r => if isDrive s.toList then s :: r else r

/-- A segment as it is written behind others. The drive that a path of the kind `file` begins with
has a colon behind its letter. -/
def segment (k : Kind) (done : List String) (s : List Char) : String :=
  if k = .file ∧ done = [] ∧ isDrive s then String.ofList (s.take 1 ++ [':'])
  else written pathForbidden s

/-- Adds segments to a path, whose segments so far stand last one first: one dot adds nothing, two
take the last segment away, and at the end both leave a slash. -/
def resolve (k : Kind) (done : List String) : List (List Char) → List String
  | [] => done.reverse
  | s :: rest =>
    let dots := plainDots s
    if dots = ['.'] ∨ dots = ['.', '.'] then
      let kept := if dots = ['.'] then done else ascend done
      if rest = [] then resolve k ("" :: kept) rest else resolve k kept rest
    else resolve k (segment k done s :: done) rest

/-- The segments of a path that stand behind a slash. -/
def segments (k : Kind) (cs : List Char) : List String := resolve k [] (pieces (isSlash k) cs)

/-- What follows the slash at the start of a text, if one is there. -/
def behindSlash (k : Kind) : List Char → List Char
  | c :: r => if isSlash k c then r else c :: r
  | [] => []

/-- The path behind a host. Only the schemes of the web always have one. -/
def pathBehindHost (k : Kind) (cs : List Char) : UrlPath :=
  if k = .other ∧ cs = [] then .segments [] else .segments (segments k (behindSlash k cs))

/-! ### Hosts -/

/-- The part of a text in front of its first colon outside brackets, and the rest. -/
def splitHost (inside : Bool) : List Char → List Char × List Char
  | [] => ([], [])
  | c :: r =>
    if c = ':' ∧ ¬ inside then ([], c :: r)
    else
      let (host, rest) := splitHost (c == '[' || (inside && c != ']')) r
      (c :: host, rest)

/-- The part of a text in front of the last `@`, and what follows that. -/
def splitUser (cs : List Char) : Option (List Char) × List Char :=
  let rest := (cs.reverse.takeWhile (· != '@')).reverse
  if rest.length = cs.length then (none, cs)
  else (some (cs.take (cs.length - rest.length - 1)), rest)

/-- The part of a text before the first of a character, and the part behind it. -/
def cutAt (c : Char) (cs : List Char) : List Char × Option (List Char) :=
  match cs.dropWhile (· != c) with
  | [] => (cs, none)
  | _ :: r => (cs.takeWhile (· != c), some r)

/-- The number of a service behind a host, where it is not that of the scheme, and what follows
it. Only a backslash may do so. -/
def behindHost? (scheme : String) : List Char → Option (Option Nat × List Char)
  | ':' :: r =>
    let digits := r.takeWhile isDigit
    let rest := r.drop digits.length
    let n := value digits
    if 65535 < n ∨ (rest ≠ [] ∧ rest.head? ≠ some '\\') then none
    else some (if digits = [] ∨ some n = usualService? scheme then none else some n, rest)
  | rest => some (none, rest)

/-- The authority that a text stands for, and what belongs to the path. -/
def authority? (scheme : String) (cs : List Char) : Option (Authority × List Char) := do
  let (user, place) := splitUser cs
  let (name, password) := cutAt ':' (user.getD [])
  let password := password.filter (· ≠ [])
  let (hostText, behind) := splitHost false place
  let host ←
    if hostText = [] then
      if kind scheme = .other ∧ behind = [] ∧ name = [] ∧ password = none then some none else none
    else if kind scheme = .other then (UrlHost.ofText? hostText).map some
    else (UrlHost.ofDomain? hostText).map some
  let (service, rest) ← behindHost? scheme behind
  return (
    { user := written userForbidden name
      password := password.map (written userForbidden)
      host, service }, rest)

/-! ### Reading -/

/-- An address without what is dropped from it: blanks and control characters around it, tabs and
line ends everywhere. -/
def cleaned (address : String) : List Char :=
  let cs := address.toList.dropWhile (· ≤ ' ')
  let cs := (cs.reverse.dropWhile (· ≤ ' ')).reverse
  cs.filter fun c => c != '\t' && c != '\n' && c != '\r'

/-- What stands behind two slashes: a host and a path. A lone `@` is no host, except as the `last`
thing in an address. -/
def behindSlashes? (scheme : String) (last : Bool) (cs : List Char) :
    Option (Authority × UrlPath) := do
  let k := kind scheme
  let place := cs.takeWhile fun c => !isSlash k c
  let path := cs.drop place.length
  if place = ['@'] ∧ ¬ (last ∧ path = []) then none
  else
    let (authority, rest) ← authority? scheme place
    return (authority, pathBehindHost k (rest ++ path))

/-- The path of a file whose host is not named, or is this one. Slashes at its start count as
one. -/
def filePath (names : List String) : UrlPath :=
  match names.dropWhile (· = "") with
  | [] => .segments [""]
  | names => .segments names

/-- What stands behind `file:`. A host is not named along with a drive. -/
def file? (cs : List Char) : Option (Authority × UrlPath) :=
  match cs with
  | a :: b :: r =>
    if isSlash .file a ∧ isSlash .file b then do
      let place := r.takeWhile fun c => !isSlash .file c
      if isDrive place then return ({}, filePath (segments .file r))
      else
        let rest := r.drop place.length
        let host ← if place = [] then some none else (UrlHost.ofDomain? place).map some
        if host = none ∨ host = some (.name "localhost") then
          return ({}, filePath (segments .file rest))
        else
          let names := segments .file (behindSlash .file rest)
          let host := if names.head?.any fun s => isDrive s.toList then none else host
          return ({ host }, filePath names)
    else some ({}, filePath (segments .file (behindSlash .file cs)))
  | _ => some ({}, filePath (segments .file (behindSlash .file cs)))

/-- What stands between a scheme and a query or fragment, or at the end of the address. -/
def hierarchy? (scheme : String) (last : Bool) (cs : List Char) :
    Option (Option Authority × UrlPath) :=
  match kind scheme, cs with
  | .web, cs =>
    (behindSlashes? scheme last (cs.dropWhile (isSlash .web))).map fun (a, p) => (some a, p)
  | .file, cs => (file? cs).map fun (a, p) => (some a, p)
  | .other, '/' :: '/' :: r => (behindSlashes? scheme last r).map fun (a, p) => (some a, p)
  | .other, '/' :: r => some (none, .segments (segments .other r))
  | .other, cs => some (none, .whole (written [] cs))

/-- The URL that an address stands for. -/
def ofAddress? (address : String) : Option Url := do
  let (scheme, rest) ← scheme? (cleaned address)
  let (rest, fragment) := cutAt '#' rest
  let (rest, query) := cutAt '?' rest
  let (authority, path) ← hierarchy? scheme (query.isNone && fragment.isNone) rest
  return {
    scheme, authority, path
    query := query.map (written (queryForbidden (kind scheme)))
    fragment := fragment.map (written fragmentForbidden) }

/-! ### Writing -/

/-- The host of a URL. -/
def host? (u : Url) : Option UrlHost := u.authority.bind Authority.host

/-- The number of the service at the host. -/
def service? (u : Url) : Option Nat :=
  (u.authority.bind Authority.service).or (usualService? u.scheme)

/-- A path as it stands in a URL. -/
def pathText : UrlPath → String
  | .segments names => String.join (names.map ("/" ++ ·))
  | .whole s => s

/-- What is asked for at the host: path and query. -/
def target (u : Url) : String := pathText u.path ++ (u.query.map ("?" ++ ·)).getD ""

/-- What stands in front of the path. A path alone may not begin with two slashes. -/
def front (u : Url) : String :=
  match u.authority, u.path with
  | some a, _ => "//" ++ a.userText ++ a.place
  | none, .segments ("" :: _ :: _) => "/."
  | none, _ => ""

/-- The text of a URL. -/
def text (u : Url) : String :=
  u.scheme ++ ":" ++ u.front ++ u.target ++ (u.fragment.map ("#" ++ ·)).getD ""

/-! ### Users -/

/-- The name and the password of a user that are sent along, if they are text. -/
def user? (u : Url) : Option (String × String) := do
  let a ← u.authority
  let name ← Percent.decode? a.user.toList
  let password := a.password.bind fun p => Percent.decode? p.toList
  if name = "" ∧ password = none then none else return (name, password.getD "")

/-- A URL without the user that is sent along. -/
def withoutUser (u : Url) : Url :=
  if u.user?.isSome then
    { u with authority := u.authority.map fun a => { a with user := "", password := none } }
  else u

end Url

end AdminConsole
