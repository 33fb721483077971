import AdminConsole.Error
import AdminConsole.Http.Request
import AdminConsole.Http.Url
import AdminConsole.Json.Printer
import AdminConsole.Text.Base64
import AdminConsole.Text.Blank
import AdminConsole.Text.Utf8

/-!
# Messages on the wire

A request is sent as an HTTP/1.1 message on a connection of its own, and the answer is read once the
connection has been closed. The end of a body is marked by its length, by a last empty chunk, or by
the end of the connection.

`WireFault` says why there is no answer at all.
-/

namespace AdminConsole

open AdminConsole.Text

namespace Wire

/-! ### Faults -/

/-- Why a request got no answer. -/
inductive WireFault where
  /-- The address is no URL. -/
  | malformed
  /-- A URL that nothing can be sent to. -/
  | unsupported (url : Url)
  | unreachable (url : Url)
  | timedOut (url : Url)
  | garbled (url : Url)
  deriving Repr, DecidableEq

/-- The text of a URL as it is told, without the user that is sent along. -/
def shown (url : Url) : String := url.withoutUser.text

/-- What a fault is described as. -/
def WireFault.detail : WireFault → String
  | .malformed => "builder error"
  | .unsupported url => "builder error for url (" ++ shown url ++ ")"
  | .unreachable url | .garbled url => "error sending request for url (" ++ shown url ++ ")"
  | .timedOut url => "request timed out: error sending request for url (" ++ shown url ++ ")"

/-- The error that a caller sees. -/
def WireFault.toError (f : WireFault) : ApiError := .network f.detail

/-! ### Destinations -/

/-- The longest text of a URL that a request can be sent to, in bytes. -/
def longestUrl : Nat := 65534

/-- The characters that may stand in the name of a host, but not in a request. -/
def unsendable : List Char := ['"', '\x60', '\x7b', '\x7d']

/-- A request can be sent to a URL. -/
def isSendable (url : Url) : Bool :=
  (url.scheme == "http" || url.scheme == "https") &&
    url.host?.any (fun h => !h.text.toList.any unsendable.contains) &&
    byteLength (shown url).toList ≤ longestUrl

/-- Where a request goes. -/
def destination (configured : String) (request : Request) : Except WireFault Url :=
  match Url.ofAddress? (request.address configured) with
  | none => .error .malformed
  | some url => if isSendable url then .ok url else .error (.unsupported url)

/-! ### Requests -/

/-- How a user that a URL names is told to the host. -/
def basic (user password : String) : String :=
  "Basic " ++ String.ofList (Base64.encode (user ++ ":" ++ password).toUTF8.toList)

/-- What goes out under a name only if the request has nothing under it. -/
def unlessGiven (request : Request) (usual : List (String × String)) : List (String × String) :=
  usual.filter fun x => request.headers.values x.1 == []

/-- The headers of a request, apart from those that concern the connection: its own, and in front of
them what is usual. A credential of the request takes the place of the user that the URL names. -/
def headers (url : Url) (request : Request) : List (String × String) :=
  let user := url.user?.map fun (user, password) =>
    (Headers.authorizationName, basic user password)
  unlessGiven request
      ([("accept", "application/json")] ++ user.toList ++
        (if request.body.isSome then [("content-type", "application/json")] else [])) ++
    request.headers.entries

/-- The body of a request as text. -/
def bodyText (request : Request) : String := (request.body.map Json.compact).getD ""

/-- The headers that concern the connection. -/
def framing (url : Url) (request : Request) : List (String × String) :=
  ("connection", "close") ::
    unlessGiven request
      ([("host", (url.authority.map Authority.place).getD "")] ++
        (if request.body.isSome then
          [("content-length", natText (byteLength (bodyText request).toList))] else []))

/-- The text of a request that goes to a URL. -/
def requestText (url : Url) (request : Request) : String :=
  let lines := (framing url request ++ headers url request).map fun (k, v) =>
    k ++ ": " ++ v ++ "\r\n"
  request.method.name ++ " " ++ url.target ++ " HTTP/1.1\r\n" ++ String.join lines ++ "\r\n" ++
    bodyText request

/-! ### Answers -/

/-- The carriage return. -/
def cr : UInt8 := 13

/-- The line feed. -/
def lf : UInt8 := 10

/-- The bytes up to the first line feed, without a carriage return at their end, and those behind
it; nothing without a line feed. -/
def line? : List UInt8 → Option (List UInt8 × List UInt8)
  | [] => none
  | b :: r =>
    if b = lf then some ([], r)
    else (line? r).map fun (l, rest) => (if b = cr ∧ l = [] then [] else b :: l, rest)

theorem length_rest_lt_of_line? {bs l rest : List UInt8} (h : line? bs = some (l, rest)) :
    rest.length < bs.length := by
  induction bs generalizing l rest with
  | nil => simp [line?] at h
  | cons b r ih =>
    rw [line?] at h
    split at h
    · simp only [Option.some.injEq, Prod.mk.injEq] at h
      rw [← h.2, List.length_cons]
      omega
    · simp only [Option.map_eq_some_iff] at h
      obtain ⟨⟨l', rest'⟩, hr, he⟩ := h
      have : rest' = rest := (Prod.mk.inj he).2
      have := ih hr
      rw [List.length_cons]
      simp_all
      omega

/-- The ASCII text of bytes. -/
def asciiText (bs : List UInt8) : String := String.ofList (bs.map fun b => Char.ofNat b.toNat)

/-- A header line as its name in lower case and its value. -/
def header (line : List UInt8) : String × String :=
  let cs := (asciiText line).toList
  let name := cs.takeWhile (· != ':')
  (String.ofList (name.map Char.toLower), trim (String.ofList (cs.drop (name.length + 1))))

/-- The header lines up to the empty one, and the bytes behind it. -/
def headerLines? (bs : List UInt8) : Option (List (String × String) × List UInt8) :=
  match h : line? bs with
  | none => none
  | some ([], rest) => some ([], rest)
  | some (l, rest) =>
    have := length_rest_lt_of_line? h
    (headerLines? rest).map fun (hs, rest) => (header l :: hs, rest)
termination_by bs.length

theorem length_rest_lt_of_headerLines? {bs rest : List UInt8} {hs : List (String × String)}
    (h : headerLines? bs = some (hs, rest)) : rest.length < bs.length := by
  fun_induction headerLines? bs generalizing hs rest with
  | case1 => simp at h
  | case2 bs r hl =>
    simp only [Option.some.injEq, Prod.mk.injEq] at h
    exact h.2 ▸ length_rest_lt_of_line? hl
  | case3 bs l r hl hne lt ih =>
    simp only [Option.map_eq_some_iff] at h
    obtain ⟨⟨hs', rest'⟩, hr, he⟩ := h
    have : rest' = rest := (Prod.mk.inj he).2
    exact Nat.lt_trans (this ▸ ih hr) lt

/-- Where the reader of a body in chunks stands. -/
inductive ChunkStage where
  /-- In the line with the size of a chunk. -/
  | size (n : Nat)
  /-- In the rest of that line. -/
  | note (n : Nat)
  | data (left : Nat)
  /-- In the line end behind a chunk. -/
  | gap
  | done
  deriving Repr, DecidableEq

/-- Reads one byte of a body in chunks. Gives the stage afterwards and whether the byte belongs to
the body. -/
def ChunkStage.next (s : ChunkStage) (b : UInt8) : ChunkStage × Bool :=
  let begun (n : Nat) : ChunkStage := if n = 0 then .done else .data n
  match s with
  | .size n =>
    match hexValue? (Char.ofNat b.toNat) with
    | some d => (.size (16 * n + d), false)
    | none => (if b = lf then begun n else .note n, false)
  | .note n => (if b = lf then begun n else .note n, false)
  | .data left => (if left ≤ 1 then .gap else .data (left - 1), true)
  | .gap => (if b = lf then .size 0 else .gap, false)
  | .done => (.done, false)

/-- The body that chunks make up, if the last one has come. -/
def unchunk? (s : ChunkStage) : List UInt8 → Option (List UInt8)
  | [] => if s = .done then some [] else none
  | b :: r =>
    let (s, kept) := s.next b
    (unchunk? s r).map fun body => if kept then b :: body else body

/-- A length, which is written in digits alone. -/
def length? (v : String) : Option Nat :=
  if v ≠ "" ∧ v.toList.all isDigit then some (value v.toList) else none

/-- The body of an answer with these headers. -/
def body? (hs : List (String × String)) (bs : List UInt8) : Option (List UInt8) :=
  if (hs.lookup "transfer-encoding").any fun v => v.toLower = "chunked" then unchunk? (.size 0) bs
  else
    match (hs.lookup "content-length").bind length? with
    | some n => if n ≤ bs.length then some (bs.take n) else none
    | none => some bs

/-- The status in the first line of an answer: the number behind the first space. -/
def status? (line : List UInt8) : Option Status :=
  let cs := (asciiText line).toList
  let code := ((cs.dropWhile (· != ' ')).drop 1).takeWhile isDigit
  if "HTTP/1.".toList.isPrefixOf cs ∧ code.length = 3 then Status.ofInt? (value code) else none

/-- The answer that bytes make up. Answers that only announce another one are passed over. -/
def response? (bs : List UInt8) : Option Response :=
  match hl : line? bs with
  | none => none
  | some (l, rest) =>
    match hh : headerLines? rest with
    | none => none
    | some (hs, behind) =>
      match status? l with
      | none => none
      | some status =>
        if status.code / 100 = 1 ∧ status.code ≠ 101 then
          have := Nat.lt_trans (length_rest_lt_of_headerLines? hh) (length_rest_lt_of_line? hl)
          response? behind
        else (body? hs behind).map fun body => ⟨status, decodeLossy body⟩
termination_by bs.length

end Wire

end AdminConsole
