import AdminConsole.Http.Request

/-!
# Sending the user to the login page

When a session is lost, the user is sent to the login page once: the redirector remembers the
generation of the session it did so for, and a burst of failures of one session makes one
navigation. Signing in again, or a new generation, arms it anew.

What is remembered is guarded by a lock, and the navigation is made once the lock has been given
back (`mark`, `navigate`). The counters count without bound. Those that they stand for have 64 bits,
and would begin anew after 2⁶⁴ navigations.
-/

namespace AdminConsole

/-- What sends the user to the login page. -/
structure Redirector where
  loginPath : String
  /-- The generation of the session that the user was last sent to the login page for. -/
  onLogin : Option Nat := none
  /-- How many navigations were made. -/
  navigations : Nat := 0
  /-- How often the surface that shows the login page was called. -/
  navigatorCalls : Nat := 0
  deriving Repr, DecidableEq, Inhabited

namespace Redirector

/-- A request on account of which the user may be sent away: it is not a silent one, nor one to the
login page itself. -/
def eligible (r : Redirector) (request : Request) : Bool :=
  !request.options.silent && request.route != r.loginPath

/-- Notes, on account of a request that failed for good in a session of this generation, that the
user is sent to the login page for this generation. Gives whether a navigation is to be made. -/
def mark (request : Request) (generation : Nat) (r : Redirector) : Bool × Redirector :=
  if r.eligible request ∧ r.onLogin ≠ some generation then
    (true, { r with onLogin := some generation })
  else (false, r)

/-- Makes a navigation. -/
def navigate (r : Redirector) : Redirector :=
  { r with
    navigations := r.navigations + 1
    navigatorCalls := r.navigatorCalls + 1 }

/-- Sends the user to the login page on account of a request that failed for good in a session of
this generation. Gives whether a navigation was made. -/
def redirect (request : Request) (generation : Nat) (r : Redirector) : Bool × Redirector :=
  match r.mark request generation with
  | (true, r) => (true, r.navigate)
  | (false, r) => (false, r)

/-- The user has signed in again. -/
def rearm (r : Redirector) : Redirector := { r with onLogin := none }

/-- The user was sent to the login page and has not signed in since. -/
def isOnLogin (r : Redirector) : Bool := r.onLogin.isSome

end Redirector

end AdminConsole
