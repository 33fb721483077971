import AdminConsole.CommandLine.Arguments
import AdminConsole.PathName
import AdminConsole.Console.Stretch
import AdminConsole.Environment.File
import AdminConsole.Settings

/-!
# The program

`run` carries out one command. It asks a `Host` for everything that lies outside of the program, so
that it can be run against a real machine and against one that is only described.

The settings come from their file; a variable of the environment counts more than the file and an
option more than the variable. The settings that are written back after a login are those without
the options.
-/

namespace AdminConsole.CommandLine

open AdminConsole.Json AdminConsole.Time

/-! ### The machine -/

/-- What the program asks of the machine it runs on. -/
structure Host (m : Type → Type) where
  /-- The text of the nearest environment file, if there is one. -/
  environmentFile : m (Option String)
  /-- Writes to the standard output. -/
  say : String → m Unit
  /-- Writes a line to the error output. -/
  warn : String → m Unit
  /-- A line of the standard input; the empty text at its end, and nothing if it cannot be read. -/
  readLine : m (Option String)
  /-- Asks for a password that is typed unseen. -/
  readPassword : String → m (Option String)
  /-- What is found under the name of a file. -/
  find : String → m FileNode
  /-- Changes what is found under the name of a file. -/
  replace : String → FileNode → m Unit
  /-- Opens a log file. -/
  openLog : String → m Bool
  /-- Sends a request and waits for its answer. -/
  send : Settings → Request → m (Except ApiError Response)

/-! ### Failures -/

/-- Why a command came to nothing. -/
inductive Failure where
  | unnamedLogFile (path : String)
  | settings
  | noCacheDirectory
  | signedOut
  | bodyNotJson
  | emailUnreadable
  | emailMissing
  | passwordUnreadable
  | call (e : ApiError)
  deriving Repr, DecidableEq

/-- The wording of a failure. -/
def Failure.message : Failure → String
  | .unnamedLogFile path => "Invalid log file path: " ++ path
  | .settings => "Failed to load configuration"
  | .noCacheDirectory => "Could not find cache directory"
  | .signedOut => "Not logged in. Run `redock login` first."
  | .bodyNotJson => "Request body is not valid JSON"
  | .emailUnreadable => "Failed to read email"
  | .emailMissing => "Email is required"
  | .passwordUnreadable => "Failed to read password"
  | .call e => e.message

/-- What the user is told when the session is lost. -/
def sessionNotice : String := "Session expired. Run `redock login` to sign in again."

/-- How the program ends. -/
inductive ExitCode where
  | success
  | failure
  | misuse
  /-- The log could not be opened, a variable could not be set, or no number of threads is asked
  for where one should be. -/
  | crash
  deriving Repr, DecidableEq

/-- The number that stands for an end. -/
def ExitCode.toNat : ExitCode → Nat
  | .success => 0
  | .failure => 1
  | .misuse => 2
  | .crash => 101

/-! ### Threads -/

/-- The variable that asks for a number of threads. -/
def threadsVariable : String := "TOKIO_WORKER_THREADS"

/-- The greatest number of threads that can be asked for. -/
def greatestThreadCount : Nat := 18446744073709551615

/-- A text asks for a number of threads: in decimal digits, perhaps behind a plus sign, and for one
thread at least. -/
def isThreadCount (text : String) : Bool :=
  let digits := match text.toList with
    | '+' :: r => r
    | cs => cs
  digits.all Text.isDigit && 0 < Text.value digits && Text.value digits ≤ greatestThreadCount

/-! ### What a command works with -/

/-- What a command works with: the settings as they are written back, the settings in force, the
file of the settings and that of the credentials, the environment, and the console. -/
structure Desk where
  saved : Settings
  inForce : Settings
  settingsPath : String
  credentialsPath : String
  environment : Environment
  console : Console ChosenBackend

/-- A part of a command. -/
abbrev Action (m : Type → Type) := ExceptT Failure m

section

variable {m : Type → Type} [Monad m]

/-- Lets the console carry out an operation, and gives what comes of it. Credentials that the
console wrote to a file are there before anything else happens, and a user who lost the session is
told. -/
def ask (host : Host m) (now : Moment) (desk : Desk) (op : Operation) : Action m (Option Outcome) :=
  ExceptT.lift do
    let (outcome, console) ← desk.console.perform now (host.send desk.inForce) op
    match desk.console.store.backend, console.store.backend with
    | .file before, .file after =>
      if before.node ≠ after.node then host.replace desk.credentialsPath after.node
    | _, _ => pure ()
    let losses := console.redirector.navigatorCalls - desk.console.redirector.navigatorCalls
    (List.replicate losses sessionNotice).forM host.warn
    return outcome

/-- The answer to a request that the console sends. -/
def call (host : Host m) (now : Moment) (desk : Desk) (request : Request) :
    Action m (Except ApiError Response) := do
  match ← ask host now desk (.send request) with
  | some (.response result) => return result
  | _ => return .error (.network "")

/-- The value of a result. An error ends the command. -/
def orFail {α : Type} (result : Except ApiError α) : Action m α :=
  match result with
  | .ok a => pure a
  | .error e => throw (.call e)

/-- Writes a line to the standard output. -/
def sayLine (host : Host m) (line : String) : Action m Unit :=
  ExceptT.lift (host.say (line ++ "\n"))

/-- Asks the user for a password. -/
def promptPassword (host : Host m) (prompt : String) : Action m String := do
  match ← ExceptT.lift (host.readPassword prompt) with
  | some p => return p
  | none => throw .passwordUnreadable

/-! ### Signing in and out -/

/-- What the user is asked for an email with. -/
def emailPrompt : Option String → String
  | some last => "Email [" ++ last ++ "]: "
  | none => "Email: "

/-- Asks the user for an email. The last one stands for an empty answer. -/
def promptEmail (host : Host m) (last : Option String) : Action m String := do
  ExceptT.lift (host.say (emailPrompt last))
  match ← ExceptT.lift host.readLine with
  | none => throw .emailUnreadable
  | some line =>
    let entered := Text.trim line
    if entered ≠ "" then return entered
    else
      match last with
      | some last => return last
      | none => throw .emailMissing

/-- The email to sign in with. -/
def chooseEmail (host : Host m) (desk : Desk) (given : Option String) : Action m String :=
  match given.or (desk.environment.nonEmpty? "REDOCK_EMAIL") with
  | some email => pure email
  | none => promptEmail host desk.saved.lastEmail

/-- The password to sign in with. -/
def choosePassword (host : Host m) (desk : Desk) : Action m String :=
  match desk.environment.nonEmpty? "REDOCK_PASSWORD" with
  | some password => pure password
  | none => promptPassword host "Password: "

/-- Signs in. -/
def signIn (host : Host m) (now : Moment) (desk : Desk) (email password : String) :
    Action m TokenPair := do
  match ← ask host now desk (.login email password) with
  | some (.signedIn result) => orFail result
  | _ => throw (.call (.network ""))

/-- Writes the settings back with an email. It does not matter if they cannot be written. -/
def remember (host : Host m) (desk : Desk) (email : String) : Action m Unit := do
  let node ← ExceptT.lift (host.find desk.settingsPath)
  match { desk.saved with lastEmail := some email }.save node with
  | .ok node => ExceptT.lift (host.replace desk.settingsPath node)
  | .error _ => pure ()

/-- Signs in and remembers the email. -/
def login (host : Host m) (now : Moment) (desk : Desk) (given : Option String) : Action m Unit := do
  let email ← chooseEmail host desk given
  let password ← choosePassword host desk
  let _ ← signIn host now desk email password
  remember host desk email
  sayLine host ("Logged in as " ++ email ++ ".")

/-- Signs out. -/
def logout (host : Host m) (now : Moment) (desk : Desk) : Action m Unit := do
  let _ ← ask host now desk .logout
  sayLine host "Logged out."

/-- Signs in to the tunnel server. -/
def tunnelLogin (host : Host m) (now : Moment) (desk : Desk) (username : String) :
    Action m Unit := do
  let password ← promptPassword host "Tunnel password: "
  match ← ask host now desk (.tunnelLogin username password) with
  | some (.tunnelSignedIn result) => orFail result
  | _ => throw (.call (.network ""))
  sayLine host ("Signed in to the tunnel server as " ++ username ++ ".")

/-! ### Looking -/

/-- What is told of a user. -/
def userLines (u : UserInfo) : List String :=
  [u.email, "  role:  " ++ u.userRole] ++
    (if u.allowedMenus = [] then [] else ["  menus: " ++ ", ".intercalate u.allowedMenus])

/-- Tells who is signed in. -/
def whoami (host : Host m) (now : Moment) (desk : Desk) : Action m Unit := do
  if ¬ desk.console.isAuthenticated then throw .signedOut
  let user ← orFail (Identity.user (← call host now desk Identity.whoAmIRequest))
  (userLines user).forM (sayLine host)

/-- What is told of the credentials. -/
def statusLines (now : Moment) (desk : Desk) : List String :=
  let store := desk.console.store
  let signed (b : Bool) : String := if b then "signed in" else "signed out"
  [ "Instance:     " ++ desk.inForce.baseUrl,
    "Credentials:  " ++ Backend.describe store.backend,
    "Session:      " ++ signed desk.console.isAuthenticated,
    "Last saved:   " ++ store.stored.age now,
    "Tunnel:       " ++ signed store.stored.tunnelServerToken.isSome,
    "Peer:         " ++ (store.peer.map Peer.baseUrl).getD "none" ]

/-- Tells where the credentials are and how old they are. -/
def status (host : Host m) (now : Moment) (desk : Desk) : Action m Unit :=
  (statusLines now desk).forM (sayLine host)

/-! ### Requests -/

/-- The body of a request, which is an empty object if none is given. -/
def bodyOf (given : Option String) : Except Failure Json :=
  match given with
  | none => .ok (.object [])
  | some text =>
    match parse? text with
    | some v => .ok v
    | none => .error .bodyNotJson

/-- Sends a request and prints the value that it is answered with. -/
def transact (host : Host m) (now : Moment) (desk : Desk) (request : Request) : Action m Unit := do
  let response ← orFail (← call host now desk request)
  let value ← orFail (Identity.decodeResponse (Tree.toJson? depthLimit) request.path response)
  sayLine host value.pretty

/-- Sends a request with a body and prints the value that it is answered with. -/
def transactWith (host : Host m) (now : Moment) (desk : Desk) (method : Method) (path : String)
    (given : Option String) : Action m Unit := do
  let body ← ExceptT.mk (pure (bodyOf given))
  transact host now desk { method := method, path := path, body := some body }

/-! ### A run -/

/-- Carries out a command. -/
def carryOut (host : Host m) (now : Moment) (desk : Desk) : Command → Action m Unit
  | .login email => login host now desk email
  | .logout => logout host now desk
  | .whoami => whoami host now desk
  | .status => status host now desk
  | .tunnelLogin username => tunnelLogin host now desk username
  | .get path => transact host now desk { method := .get, path := path }
  | .post path body => transactWith host now desk .post path body
  | .put path body => transactWith host now desk .put path body
  | .patch path body => transactWith host now desk .patch path body
  | .delete path => transact host now desk { method := .delete, path := path }

/-- The settings with the options of the command line. -/
def Globals.apply (g : Globals) (s : Settings) : Settings :=
  let s := { s with baseUrl := g.baseUrl.getD s.baseUrl }
  if g.ephemeral then { s with credentialBackend := .memory } else s

/-- The directory of the credentials, which is needed if they are kept in a file. -/
def credentialsDirectory (env : Environment) (kind : BackendKind) : Except Failure String :=
  match env.cacheDirectory?, kind with
  | some d, _ => .ok (PathName.join d Settings.directoryName)
  | none, .file => .error .noCacheDirectory
  | none, _ => .ok ""

/-- What the commands work with. -/
def prepare (host : Host m) (env : Environment) (globals : Globals) : Action m Desk := do
  let some configs := env.configDirectory? | throw .settings
  let settingsPath :=
    PathName.join (PathName.join configs Settings.directoryName) Settings.fileName
  let .ok saved := Settings.load (← ExceptT.lift (host.find settingsPath)) | throw .settings
  let saved := saved.withAddress (env.get? "REDOCK_BASE_URL")
  let inForce := globals.apply saved
  let directory ← ExceptT.mk (pure (credentialsDirectory env inForce.credentialBackend))
  let credentialsPath := directory ++ "/" ++ FileBackend.fileName
  let node ← ExceptT.lift (host.find credentialsPath)
  return { saved, inForce, settingsPath, credentialsPath, environment := env,
           console := { store := inForce.openStore directory node } }

/-- How a command ends. A failure is told. -/
def finish (host : Host m) (result : Except Failure Unit) : m ExitCode := do
  match result with
  | .ok _ => return .success
  | .error e =>
    host.warn ("Error: " ++ e.message)
    return .failure

/-- Opens the log file, if one is asked for, before anything else is done. -/
def withLog (host : Host m) (logFile : Option String) (go : m ExitCode) : m ExitCode := do
  match logFile with
  | none => go
  | some path =>
    if ¬ PathName.isNamed path then finish host (.error (.unnamedLogFile path))
    else if ← host.openLog path then go
    else return .crash

/-- Carries out a command with the options of the program. -/
def runCommand (host : Host m) (now : Moment) (env : Environment) (globals : Globals)
    (command : Command) : m ExitCode := do
  let action : Action m Unit := do carryOut host now (← prepare host env globals) command
  finish host (← action.run)

/-- Does what the arguments ask for. -/
def respond (host : Host m) (now : Moment) (env : Environment) : Invocation → m ExitCode
  | .misuse => do
    host.warn "Usage: redock [OPTIONS] <COMMAND>"
    return .misuse
  | .help topic => do
    host.say topic.text
    return .success
  | .version => do
    host.say versionText
    return .success
  | .run globals command =>
    withLog host globals.logFile (runCommand host now env globals command)

/-- Runs the program. The number of threads is judged before anything else, so the environment file
has no say in it. -/
def run (host : Host m) (now : Moment) (env : Environment) (args : List String) : m ExitCode := do
  if (env.get? threadsVariable).any fun v => !isThreadCount v then return .crash
  let supplied := match ← host.environmentFile with
    | some text => env.withFile? text
    | none => some env
  match supplied with
  | some env => respond host now env (.ofArguments args)
  | none => return .crash

end

end AdminConsole.CommandLine
