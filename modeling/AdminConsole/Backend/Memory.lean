import AdminConsole.Backend.Basic

/-!
# Backends that outlive nothing

`MemoryBackend` keeps credentials until it is gone. `KeyringBackend` is the keychain of a system
that has none: it takes everything and keeps nothing.
-/

namespace AdminConsole

/-- Credentials in memory. -/
structure MemoryBackend where
  saved : Option StoredCredentials := none
  deriving Repr, DecidableEq, Inhabited

instance : Backend MemoryBackend where
  load b := (.ok b.saved, b)
  save c _ := (.ok (), ⟨some c⟩)
  clear _ := (.ok (), ⟨none⟩)
  describe _ := "memory"

/-- The entry of an account in a keychain. -/
structure KeyringBackend where
  account : String
  deriving Repr, DecidableEq, Inhabited

/-- The name under which entries stand in a keychain. -/
def KeyringBackend.service : String := "redock-console"

instance : Backend KeyringBackend where
  load b := (.ok none, b)
  save _ b := (.ok (), b)
  clear b := (.ok (), b)
  describe b := "keyring (" ++ KeyringBackend.service ++ "/" ++ b.account ++ ")"

end AdminConsole
