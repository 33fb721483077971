import AdminConsole.Backend.File
import AdminConsole.Backend.Memory

/-!
# The backend of a configuration

A configuration names one of three kinds of backend; `ChosenBackend` is a backend of any of them.
-/

namespace AdminConsole

/-- A backend of one of the kinds that a configuration can name. -/
inductive ChosenBackend where
  | file (b : FileBackend)
  | keyring (b : KeyringBackend)
  | memory (b : MemoryBackend)
  deriving Repr, DecidableEq, Inhabited

namespace ChosenBackend

/-- The outcome of an operation of a backend of one kind. -/
def wrap {α β : Type} (f : β → ChosenBackend) (x : Except StorageError α × β) :
    Except StorageError α × ChosenBackend := (x.1, f x.2)

end ChosenBackend

open ChosenBackend in
instance : Backend ChosenBackend where
  load
    | .file b => wrap .file (Backend.load b)
    | .keyring b => wrap .keyring (Backend.load b)
    | .memory b => wrap .memory (Backend.load b)
  save c
    | .file b => wrap .file (Backend.save c b)
    | .keyring b => wrap .keyring (Backend.save c b)
    | .memory b => wrap .memory (Backend.save c b)
  clear
    | .file b => wrap .file (Backend.clear b)
    | .keyring b => wrap .keyring (Backend.clear b)
    | .memory b => wrap .memory (Backend.clear b)
  describe
    | .file b => Backend.describe b
    | .keyring b => Backend.describe b
    | .memory b => Backend.describe b

end AdminConsole
