import AdminConsole.Backend.Chosen
import AdminConsole.Credentials.Store
import AdminConsole.Http.Path

/-!
# Settings

The settings of the console: the address of the instance, a time limit, the kind of backend and the
email of the last login. They are kept as JSON; every field may be missing from the file and then
has its default.
-/

namespace AdminConsole

open AdminConsole.Json

/-- A kind of backend. -/
inductive BackendKind where
  | file
  | keyring
  | memory
  deriving Repr, DecidableEq, Inhabited

namespace BackendKind

/-- The name of a kind. -/
def name : BackendKind → String
  | .file => "file"
  | .keyring => "keyring"
  | .memory => "memory"

/-- The kind with a name. -/
def ofName? (s : String) : Option BackendKind :=
  [file, keyring, memory].find? fun k => k.name == s

/-- Reads a kind: its name, or an object whose only member has that name and is null. -/
def ofTree? : Tree → Option BackendKind
  | .string (some s) => ofName? s
  | .object [(some s, .null)] => ofName? s
  | _ => none

end BackendKind

/-- The settings. -/
structure Settings where
  baseUrl : String := "http://127.0.0.1:6001"
  requestTimeoutSecs : UInt64 := 30
  credentialBackend : BackendKind := .file
  lastEmail : Option String := none
  deriving Repr, DecidableEq, Inhabited

namespace Settings

/-- The name of the directories that hold the settings and the credentials. -/
def directoryName : String := "redock-console"

/-- The name of the file that holds the settings. -/
def fileName : String := "config.json"

/-- Settings as JSON. -/
def toJson (s : Settings) : Json :=
  .object
    [ ("base_url", .string s.baseUrl),
      ("request_timeout_secs", .nat s.requestTimeoutSecs.toNat),
      ("credential_backend", .string s.credentialBackend.name),
      ("last_email", .ofText? s.lastEmail) ]

/-- Reads settings. -/
def ofTree? (t : Tree) : Option Settings := do
  let default : Settings := {}
  let f ← t.fields? ["base_url", "request_timeout_secs", "credential_backend", "last_email"]
  let baseUrl ← f.orElse "base_url" Tree.asString? default.baseUrl
  let timeout ← f.orElse "request_timeout_secs" Tree.asUInt64? default.requestTimeoutSecs
  let backend ← f.orElse "credential_backend" BackendKind.ofTree? default.credentialBackend
  let lastEmail ← f.orElse "last_email" (Tree.asOption? Tree.asString?) default.lastEmail
  return ⟨baseUrl, timeout, backend, lastEmail⟩

/-- Reads the text of settings. -/
def parse? (text : String) : Option Settings := decode? ofTree? text

/-- The text of settings in a file. -/
def fileText (s : Settings) : String := s.toJson.pretty

/-- The settings in a file; the defaults where there is none. -/
def load (node : FileNode) : Except StorageError Settings :=
  if ¬ node.isPresent then .ok {}
  else
    match node.read? with
    | none => .error .configUnreadable
    | some text =>
      match parse? text with
      | none => .error .configMalformed
      | some s => .ok s

/-- The file after the settings were written to it. -/
def save (s : Settings) (node : FileNode) : Except StorageError FileNode :=
  match node.write? s.fileText with
  | some node => .ok node
  | none => .error .system

/-- The settings with the address that the environment gives, unless that is empty. -/
def withAddress (s : Settings) (given : Option String) : Settings :=
  match given with
  | some address => if address = "" then s else { s with baseUrl := address }
  | none => s

/-- How many seconds a request may take: one at least. -/
def requestTimeout (s : Settings) : UInt64 :=
  if s.requestTimeoutSecs = 0 then 1 else s.requestTimeoutSecs

/-- The account under which the keychain keeps the credentials of an instance. -/
def keyringAccount (s : Settings) : String := Address.base s.baseUrl

/-- The backend, given the directory for files and what is found there. -/
def backend (s : Settings) (directory : String) (node : FileNode) : ChosenBackend :=
  match s.credentialBackend with
  | .file => .file ⟨directory, node⟩
  | .keyring => .keyring ⟨s.keyringAccount⟩
  | .memory => .memory {}

/-- The store that the settings lead to. -/
def openStore (s : Settings) (directory : String) (node : FileNode) : Store ChosenBackend :=
  .load (s.backend directory node)

end Settings

end AdminConsole
