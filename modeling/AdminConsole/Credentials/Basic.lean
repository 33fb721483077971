import AdminConsole.Http.Path
import AdminConsole.Text.Blank
import AdminConsole.Text.Decimal
import AdminConsole.Time.Moment

/-!
# Credentials

The session is a pair of tokens, of which either may be missing. `StoredCredentials` is all that is
kept between two runs: the session, the two tunnel tokens and the time of the last write. The
federation peer is not kept.
-/

namespace AdminConsole

open AdminConsole.Text AdminConsole.Time

/-- The tokens of a session. -/
structure TokenPair where
  access : Option String := none
  refresh : Option String := none
  deriving Repr, DecidableEq, Inhabited

namespace TokenPair

/-- The pair of two texts, of which a blank one is no token. -/
def ofTexts (access refresh : String) : TokenPair := ⟨nonBlank? access, nonBlank? refresh⟩

/-- Neither token is there. -/
def isEmpty (p : TokenPair) : Bool := p.access.isNone && p.refresh.isNone

end TokenPair

/-- The federation peer that pass-through requests go to. -/
structure Peer where
  baseUrl : String
  token : Option String := none
  deriving Repr, DecidableEq, Inhabited

/-- The peer at an address, without the trailing slashes of the address. A blank token is none. -/
def Peer.ofTexts (address : String) (token : Option String) : Peer :=
  ⟨Address.base address, token.bind nonBlank?⟩

/-- One credential. -/
inductive CredentialKey where
  | access
  | refresh
  | tunnel
  | tunnelServer
  deriving Repr, DecidableEq, Inhabited

/-- Credentials that are cleared together. -/
inductive CredentialGroup where
  | session
  | tunnel
  | tunnelServer
  | all
  deriving Repr, DecidableEq, Inhabited

/-- All that is kept between two runs. -/
structure StoredCredentials where
  session : TokenPair := {}
  tunnelToken : Option String := none
  tunnelServerToken : Option String := none
  savedAt : Option Moment := none
  deriving Repr, DecidableEq, Inhabited

namespace StoredCredentials

/-- None of the four tokens is there. -/
def isEmpty (c : StoredCredentials) : Bool :=
  c.session.isEmpty && c.tunnelToken.isNone && c.tunnelServerToken.isNone

/-- The credential for a key. -/
def get (c : StoredCredentials) : CredentialKey → Option String
  | .access => c.session.access
  | .refresh => c.session.refresh
  | .tunnel => c.tunnelToken
  | .tunnelServer => c.tunnelServerToken

/-- The credentials with another value for a key. -/
def set (c : StoredCredentials) (key : CredentialKey) (token : Option String) :
    StoredCredentials :=
  match key with
  | .access => { c with session := { c.session with access := token } }
  | .refresh => { c with session := { c.session with refresh := token } }
  | .tunnel => { c with tunnelToken := token }
  | .tunnelServer => { c with tunnelServerToken := token }

@[simp] theorem get_set_self (c : StoredCredentials) (k : CredentialKey) (t : Option String) :
    (c.set k t).get k = t := by
  cases k <;> rfl

theorem get_set_of_ne (c : StoredCredentials) {k l : CredentialKey} (t : Option String)
    (h : l ≠ k) : (c.set k t).get l = c.get l := by
  cases k <;> cases l <;> first | rfl | exact absurd rfl h

/-- The credentials without those of a group. -/
def without (c : StoredCredentials) : CredentialGroup → StoredCredentials
  | .session => { c with session := {} }
  | .tunnel => { c with tunnelToken := none }
  | .tunnelServer => { c with tunnelServerToken := none }
  | .all => {}

/-! ### Age -/

/-- Whole minutes since the last write. -/
def ageMinutes (c : StoredCredentials) (now : Moment) : Option Int :=
  c.savedAt.map now.minutesSince

/-- How an age in minutes is shown. A write in the future counts as one just now. -/
def ageText (minutes : Int) : String :=
  if minutes < 1 then "just now"
  else if minutes < 60 then intText minutes ++ "m ago"
  else if minutes < 1440 then intText (minutes / 60) ++ "h ago"
  else intText (minutes / 1440) ++ "d ago"

/-- How long ago the last write was, as it is shown. -/
def age (c : StoredCredentials) (now : Moment) : String :=
  match c.ageMinutes now with
  | none => "never"
  | some minutes => ageText minutes

end StoredCredentials

end AdminConsole
