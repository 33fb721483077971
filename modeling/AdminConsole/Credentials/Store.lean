import AdminConsole.Backend.Basic

/-!
# The credential store

The store answers from memory; every accepted write goes to memory first and then, once, to the
backend: `clear` when no credential is left and `save` with all of them otherwise. A backend that
fails is not heeded, so no operation of the store can fail.

The **generation** counts the access tokens that have been installed. It grows by one at a write
after which an access token is there that differs from the one before, and never otherwise, so that
two moments of one generation belong to one session.
-/

namespace AdminConsole

open AdminConsole.Text AdminConsole.Time

/-- The credentials in use, the selected federation peer and the number of access tokens that have
been installed, over a backend. -/
structure Store (β : Type) where
  stored : StoredCredentials := {}
  peer : Option Peer := none
  generation : Nat := 0
  backend : β

/-- What a write to the store gives back. -/
inductive StoreReply where
  | done
  | accepted (b : Bool)
  | dropped (peer : Option Peer)
  deriving Repr, DecidableEq, Inhabited

/-- A write to the store. -/
inductive StoreWrite where
  /-- Sets one credential; a blank value clears it. -/
  | set (key : CredentialKey) (value : String)
  | clear (group : CredentialGroup)
  /-- Replaces the session, taking the pair as it is. -/
  | setSession (pair : TokenPair)
  /-- Installs renewed tokens, if the session still holds the refresh token they were got with. -/
  | renew (used access : String) (refresh : Option String)
  /-- Clears the session, if it still holds a refresh token. -/
  | clearIf (used : String)
  | setPeer (peer : Peer)
  | clearPeer
  deriving Repr, DecidableEq, Inhabited

namespace Store

variable {β : Type}

/-- The credential for a key. -/
def get (s : Store β) (key : CredentialKey) : Option String := s.stored.get key

/-- The tokens of the session. -/
def session (s : Store β) : TokenPair := s.stored.session

/-- Whether the session holds a refresh token. -/
def holds (used : String) (s : Store β) : Bool := s.stored.session.refresh == some used

/-- Selects a federation peer. -/
def setPeer (peer : Peer) (s : Store β) : Store β := { s with peer := some peer }

/-- Drops the selected federation peer. -/
def clearPeer (s : Store β) : Store β := { s with peer := none }

variable [Backend β]

/-- A store with what its backend has kept; with nothing, where the backend fails. -/
def load (backend : β) : Store β :=
  match Backend.load backend with
  | (.ok (some c), b) => { stored := c, backend := b }
  | (.ok none, b) | (.error _, b) => { backend := b }

/-- The backend after it was given the credentials to keep. -/
def persist (c : StoredCredentials) (backend : β) : β :=
  if c.isEmpty then (Backend.clear backend).2 else (Backend.save c backend).2

/-- Whether a write installs an access token: one is there that differs from the one before. -/
def installs (before after : StoredCredentials) : Bool :=
  after.session.access.isSome && after.session.access != before.session.access

/-- An accepted write: the credentials get the time, the generation counts a new access token, and
the backend is given the result. -/
def write (now : Moment) (credentials : StoredCredentials) (s : Store β) : Store β :=
  let stored := { credentials with savedAt := some now }
  { s with
    stored := stored
    generation := if installs s.stored stored then s.generation + 1 else s.generation
    backend := persist stored s.backend }

/-- Sets one credential. A blank value clears it. -/
def set (now : Moment) (key : CredentialKey) (value : String) (s : Store β) : Store β :=
  s.write now (s.stored.set key (nonBlank? value))

/-- Clears the credentials of a group. -/
def clear (now : Moment) (group : CredentialGroup) (s : Store β) : Store β :=
  s.write now (s.stored.without group)

/-- Replaces the session. -/
def setSession (now : Moment) (pair : TokenPair) (s : Store β) : Store β :=
  s.write now { s.stored with session := pair }

/-- The session after a renewal: a new access token, and a new refresh token if one was given. -/
def renewed (access : String) (refresh : Option String) (before : TokenPair) : TokenPair :=
  ⟨nonBlank? access, (refresh.bind nonBlank?).or before.refresh⟩

/-- Installs renewed tokens, if the session still holds the refresh token they were got with. -/
def renew (now : Moment) (used access : String) (refresh : Option String) (s : Store β) :
    Bool × Store β :=
  if s.holds used then
    (true, s.write now { s.stored with session := renewed access refresh s.stored.session })
  else (false, s)

/-- Clears the session, if it still holds a refresh token. -/
def clearIf (now : Moment) (used : String) (s : Store β) : Bool × Store β :=
  if s.holds used then (true, s.write now (s.stored.without .session)) else (false, s)

/-- A write, with what it gives back. -/
def apply (now : Moment) (w : StoreWrite) (s : Store β) : StoreReply × Store β :=
  match w with
  | .set key value => (.done, s.set now key value)
  | .clear group => (.done, s.clear now group)
  | .setSession pair => (.done, s.setSession now pair)
  | .renew used access refresh =>
    let (b, s) := s.renew now used access refresh
    (.accepted b, s)
  | .clearIf used =>
    let (b, s) := s.clearIf now used
    (.accepted b, s)
  | .setPeer peer => (.done, s.setPeer peer)
  | .clearPeer => (.dropped s.peer, s.clearPeer)

end Store

end AdminConsole
