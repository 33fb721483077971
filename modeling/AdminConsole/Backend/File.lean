import AdminConsole.Backend.Basic
import AdminConsole.Credentials.Format
import AdminConsole.Text.Utf8

/-!
# Credentials in a file

`FileNode` is what is found under the name of a file. The backend writes all credentials over the
file in one go and removes the file when there is nothing to keep; it never looks at a file that it
is about to replace.
-/

namespace AdminConsole

/-- What is found under the name of a file. -/
inductive FileNode where
  | absent
  | text (contents : String)
  /-- A file whose bytes are no UTF-8 text. -/
  | binary (bytes : List UInt8)
  | directory
  /-- The name lies below something that is no directory: nothing is there or can come there. -/
  | blocked
  deriving Repr, DecidableEq, Inhabited

namespace FileNode

/-- A file with these bytes. -/
def ofBytes (bytes : List UInt8) : FileNode :=
  match String.fromUTF8? ⟨bytes.toArray⟩ with
  | some s => .text s
  | none => .binary bytes

/-- Something is found under the name. -/
def isPresent : FileNode → Bool
  | .absent | .blocked => false
  | .text _ | .binary _ | .directory => true

/-- The text of the file, if it is one and can be read. -/
def read? : FileNode → Option String
  | .text s => some s
  | .absent | .binary _ | .directory | .blocked => none

/-- Puts a text into the file. -/
def write? (s : String) : FileNode → Option FileNode
  | .absent | .text _ | .binary _ => some (.text s)
  | .directory | .blocked => none

/-- The contents as they show, with U+FFFD in place of what is no text. -/
def shown? : FileNode → Option String
  | .absent | .blocked | .directory => none
  | .text s => some s
  | .binary bytes => some (Text.decodeLossy bytes)

end FileNode

/-- Credentials in a file of a directory. -/
structure FileBackend where
  directory : String
  node : FileNode := .absent
  deriving Repr, DecidableEq, Inhabited

namespace FileBackend

/-- The file's name in its directory. -/
def fileName : String := "credentials.json"

/-- The file's path. -/
def path (b : FileBackend) : String := b.directory ++ "/" ++ fileName

/-- The credentials in the file. -/
def load (b : FileBackend) : Except StorageError (Option StoredCredentials) :=
  if ¬ b.node.isPresent then .ok none
  else
    match b.node.read? with
    | none => .error .credentialsUnreadable
    | some text =>
      match StoredCredentials.parse? text with
      | none => .error .credentialsMalformed
      | some c => .ok (some c)

/-- Writes the file. Where its directory cannot be made, the system's refusal is all that is
told. -/
def save (c : StoredCredentials) (b : FileBackend) : Except StorageError Unit × FileBackend :=
  match b.node.write? c.fileText with
  | some node => (.ok (), { b with node := node })
  | none =>
    (.error (if b.node = .blocked then .system else .credentialsUnwritable), b)

/-- Removes the file, if there is one. -/
def clear (b : FileBackend) : Except StorageError Unit × FileBackend :=
  match b.node with
  | .absent | .blocked => (.ok (), b)
  | .text _ | .binary _ => (.ok (), { b with node := .absent })
  | .directory => (.error .system, b)

end FileBackend

instance : Backend FileBackend where
  load b := (b.load, b)
  save := FileBackend.save
  clear := FileBackend.clear
  describe b := "file (" ++ b.path ++ ")"

end AdminConsole
