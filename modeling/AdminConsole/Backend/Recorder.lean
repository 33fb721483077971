import AdminConsole.Backend.Basic

/-!
# A backend that records

A `RecordingBackend` keeps nothing but a list of what it was asked for. Which of its operations
fail may depend on all that it was asked for so far, so it stands for every pattern of failures.
-/

namespace AdminConsole

/-- An operation that a backend was asked for. -/
inductive BackendCall where
  | load
  | save (c : StoredCredentials)
  | clear
  deriving Repr, DecidableEq, Inhabited

/-- A backend that records its calls, last one first. `fails` is asked with the present call as the
first of the list. -/
structure RecordingBackend where
  initial : Option StoredCredentials := none
  fails : List BackendCall → Bool := fun _ => false
  calls : List BackendCall := []

namespace RecordingBackend

/-- Records a call, and tells whether it fails. -/
def record (call : BackendCall) (b : RecordingBackend) : Bool × RecordingBackend :=
  let calls := call :: b.calls
  (b.fails calls, { b with calls := calls })

/-- Records a call that has no answer but success or failure. -/
def perform (call : BackendCall) (b : RecordingBackend) :
    Except StorageError Unit × RecordingBackend :=
  let (failed, b) := b.record call
  (if failed then .error .system else .ok (), b)

end RecordingBackend

instance : Backend RecordingBackend where
  load b :=
    let (failed, after) := b.record .load
    (if failed then .error .system else .ok b.initial, after)
  save c := RecordingBackend.perform (.save c)
  clear := RecordingBackend.perform .clear
  describe _ := "recorder"

end AdminConsole
