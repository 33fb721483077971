import AdminConsole.Credentials.Basic

/-!
# Where credentials are kept

A backend keeps stored credentials from one run to the next. It is a value: an operation gives its
answer and the backend as it is afterwards. Any operation may fail; what a failure means is up to
the one who asked.
-/

namespace AdminConsole

/-- Why a backend or a file could not do what it was asked for. -/
inductive StorageError where
  | credentialsUnreadable
  | credentialsMalformed
  | credentialsUnwritable
  | configUnreadable
  | configMalformed
  /-- The system refused, and nothing more is told. -/
  | system
  deriving Repr, DecidableEq, Inhabited

/-- The wording of an error, if it has one of its own. -/
def StorageError.context? : StorageError → Option String
  | .credentialsUnreadable => some "Failed to read credentials file"
  | .credentialsMalformed => some "Failed to parse credentials file"
  | .credentialsUnwritable => some "Failed to write credentials file"
  | .configUnreadable => some "Failed to read config file"
  | .configMalformed => some "Failed to parse config file"
  | .system => none

/-- A place where credentials are kept. -/
class Backend (β : Type) where
  /-- The credentials that were kept, if any. -/
  load : β → Except StorageError (Option StoredCredentials) × β
  /-- Keeps credentials in place of those before. -/
  save : StoredCredentials → β → Except StorageError Unit × β
  /-- Keeps nothing. -/
  clear : β → Except StorageError Unit × β
  /-- What the place is called. -/
  describe : β → String

end AdminConsole
