import AdminConsole.Credentials.Basic
import AdminConsole.Json.Printer
import AdminConsole.Json.Record
import AdminConsole.Time.Rfc3339

/-!
# Stored credentials as text

The JSON form of stored credentials: all fields are written, in the order of their declaration; in
reading every field may be missing. Tokens are taken as they stand, blank ones too.
-/

namespace AdminConsole

open AdminConsole.Json AdminConsole.Time

namespace TokenPair

/-- A pair as JSON. -/
def toJson (p : TokenPair) : Json :=
  .object [("access", .ofText? p.access), ("refresh", .ofText? p.refresh)]

/-- Reads a pair. -/
def ofTree? (t : Tree) : Option TokenPair := do
  let f ← t.fields? ["access", "refresh"]
  let access ← f.optional "access" Tree.asString?
  let refresh ← f.optional "refresh" Tree.asString?
  return ⟨access, refresh⟩

end TokenPair

/-- Reads a moment. -/
def Time.Moment.ofTree? (t : Tree) : Option Moment := t.asString?.bind Moment.parse?

namespace StoredCredentials

/-- Credentials as JSON. -/
def toJson (c : StoredCredentials) : Json :=
  .object
    [ ("session", c.session.toJson),
      ("tunnel_token", .ofText? c.tunnelToken),
      ("tunnel_server_token", .ofText? c.tunnelServerToken),
      ("saved_at", .ofText? (c.savedAt.map Moment.render)) ]

/-- Reads credentials. -/
def ofTree? (t : Tree) : Option StoredCredentials := do
  let f ← t.fields? ["session", "tunnel_token", "tunnel_server_token", "saved_at"]
  let session ← f.orElse "session" TokenPair.ofTree? {}
  let tunnelToken ← f.orElse "tunnel_token" (Tree.asOption? Tree.asString?) none
  let tunnelServerToken ← f.orElse "tunnel_server_token" (Tree.asOption? Tree.asString?) none
  let savedAt ← f.orElse "saved_at" (Tree.asOption? Moment.ofTree?) none
  return ⟨session, tunnelToken, tunnelServerToken, savedAt⟩

/-- Reads the text of credentials. -/
def parse? (text : String) : Option StoredCredentials := decode? ofTree? text

/-- The text of credentials in a file. -/
def fileText (c : StoredCredentials) : String := c.toJson.pretty

end StoredCredentials

end AdminConsole
