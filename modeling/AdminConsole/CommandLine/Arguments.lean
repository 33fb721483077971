import AdminConsole.CommandLine.Form

/-!
# The command line

`Invocation.ofArguments` reads the arguments of the program: options of the program, the name of a
command, and the options and operands of that command. An option `--name` takes its value from the
same argument, behind an equals sign, or else from the next one, which may not look like an option
itself. Options of the program may also stand among those of a command, where they count more than
in front of it; within one of the two places no option may be given twice. Behind `--` there are
only operands.

Arguments are read from left to right, and the first that asks for an explanation or cannot be taken
decides. An option whose value is an argument of its own is judged late, when the next argument of
its place is read: so an explanation that is asked for behind the name of a command comes before a
fault in the last option in front of that name.
-/

namespace AdminConsole.CommandLine

/-- A command with its operands and options. -/
inductive Command where
  | login (email : Option String)
  | logout
  | whoami
  | status
  | tunnelLogin (username : String)
  | get (path : String)
  | post (path : String) (body : Option String)
  | put (path : String) (body : Option String)
  | patch (path : String) (body : Option String)
  | delete (path : String)
  deriving Repr, DecidableEq

/-- The options of the program. -/
structure Globals where
  baseUrl : Option String := none
  logFile : Option String := none
  ephemeral : Bool := false
  deriving Repr, DecidableEq

/-- What the arguments ask for. -/
inductive Invocation where
  | run (globals : Globals) (command : Command)
  | help (topic : HelpTopic)
  | version
  /-- Nothing that could be done. -/
  | misuse
  deriving Repr, DecidableEq

/-! ### One argument -/

/-- How an argument looks. -/
inductive Shape where
  | separator
  /-- Two hyphens and a name, with the value behind an equals sign if there is one. -/
  | long (name : String) (value : Option String)
  /-- A hyphen and single letters. -/
  | short (letters : List Char)
  | plain
  deriving Repr, DecidableEq

/-- How an argument looks. A hyphen alone is an operand. -/
def Shape.of (arg : String) : Shape :=
  match arg.toList with
  | ['-', '-'] => .separator
  | '-' :: '-' :: r =>
    .long (String.ofList (r.takeWhile (· != '=')))
      (match r.dropWhile (· != '=') with
        | [] => none
        | _ :: v => some (String.ofList v))
  | '-' :: c :: r => .short (c :: r)
  | _ => .plain

/-! ### The arguments of one place -/

/-- What may be given at a place. -/
structure Level where
  /-- The options that take a value. -/
  options : List String
  /-- The greatest number of operands. -/
  operandLimit : Nat := 0
  /-- What is explained here. -/
  topic : HelpTopic
  /-- The version may be asked for. -/
  versioned : Bool := false

/-- The options with a value that may be given anywhere. -/
def Level.globalOptions : List String := ["base-url", "log-file"]

/-- In front of the name of a command. -/
def Level.front : Level :=
  { options := globalOptions, topic := .program, versioned := true }

/-- Behind the name of a command. -/
def CommandForm.level (f : CommandForm) : Level :=
  { options := f.valueOptions ++ Level.globalOptions
    operandLimit := f.operandLimit
    topic := .command f }

/-- What was given at a place, operands in order. -/
structure Given where
  options : List (String × String) := []
  ephemeral : Bool := false
  operands : List String := []
  /-- The last option and its value, if that was an argument of its own and has not been judged. -/
  pending : Option (String × String) := none
  deriving Repr, DecidableEq

namespace Given

/-- The value of an option. -/
def value? (g : Given) (name : String) : Option String := g.options.lookup name

/-- Takes an option. It may not be given twice, and a file needs a name. -/
def take (g : Given) (name value : String) : Except Invocation Given :=
  if (g.value? name).isSome ∨ (name = "log-file" ∧ value = "") then .error .misuse
  else .ok { g with options := (name, value) :: g.options }

/-- Takes the option that is pending. -/
def settle (g : Given) : Except Invocation Given :=
  match g.pending with
  | none => .ok g
  | some (name, value) => { g with pending := none }.take name value

/-- Takes the option without a value. -/
def takeEphemeral (g : Given) : Except Invocation Given :=
  if g.ephemeral then .error .misuse else .ok { g with ephemeral := true }

end Given

namespace Level

/-- Takes an operand, of which there may not be too many. -/
def operand (level : Level) (g : Given) (arg : String) : Except Invocation Given :=
  if g.operands.length < level.operandLimit then .ok { g with operands := g.operands ++ [arg] }
  else .error .misuse

/-- What letters behind a single hyphen ask for: only the first counts. -/
def letters (level : Level) : List Char → Invocation
  | 'h' :: _ => .help level.topic
  | 'V' :: _ => if level.versioned then .version else .misuse
  | _ => .misuse

/-- What a name behind two hyphens asks for that is no option with a value. -/
def flag (level : Level) (g : Given) (name : String) (value : Option String) :
    Except Invocation Given :=
  if value.isSome then .error .misuse
  else if name = "ephemeral" then g.takeEphemeral
  else if name = "help" then .error (.help level.topic)
  else if name = "version" ∧ level.versioned then .error .version
  else .error .misuse

/-- Reads arguments up to the first one that `stop` holds for, if it is neither an option nor the
value of one. Gives what was read, and that argument with all that follow it. -/
def read (level : Level) (stop : String → Bool) (g : Given) :
    List String → Except Invocation (Given × List String)
  | [] => .ok (g, [])
  | arg :: rest =>
    if Shape.of arg = .plain ∧ stop arg then .ok (g, arg :: rest)
    else g.settle.bind fun g =>
      match Shape.of arg with
      | .separator => (rest.foldlM level.operand g).map fun g => (g, [])
      | .short letters => .error (level.letters letters)
      | .plain => (level.operand g arg).bind fun g => level.read stop g rest
      | .long name value =>
        if name ∈ level.options then
          match value with
          | some v => (g.take name v).bind fun g => level.read stop g rest
          | none =>
            match rest with
            | [] => .error .misuse
            | v :: others =>
              if Shape.of v = .plain then
                level.read stop { g with pending := some (name, v) } others
              else .error .misuse
        else (level.flag g name value).bind fun g => level.read stop g rest

end Level

/-! ### Commands -/

/-- The command with a name, given its options and operands. -/
def Command.ofGiven? (name : String) (g : Given) : Option Command :=
  match name, g.operands with
  | "login", [] => some (.login (g.value? "email"))
  | "logout", [] => some .logout
  | "whoami", [] => some .whoami
  | "status", [] => some .status
  | "tunnel-login", [username] => some (.tunnelLogin username)
  | "get", [path] => some (.get path)
  | "post", [path] => some (.post path none)
  | "post", [path, body] => some (.post path (some body))
  | "put", [path] => some (.put path none)
  | "put", [path, body] => some (.put path (some body))
  | "patch", [path] => some (.patch path none)
  | "patch", [path, body] => some (.patch path (some body))
  | "delete", [path] => some (.delete path)
  | _, _ => none

/-- The options of the program, given what stands in front of the command and what behind it. -/
def Globals.ofGiven (front behind : Given) : Globals :=
  { baseUrl := (behind.value? "base-url").or (front.value? "base-url")
    logFile := (behind.value? "log-file").or (front.value? "log-file")
    ephemeral := front.ephemeral || behind.ephemeral }

namespace Invocation

/-- The explanation that is asked for by name. -/
def helpOn : List String → Invocation
  | [] => .help .program
  | [name] =>
    if name = "help" then .help .help
    else
      match CommandForm.ofName? name with
      | some form => .help (.command form)
      | none => .misuse
  | _ => .misuse

/-- What the arguments ask for, or what they cut short. -/
def read (args : List String) : Except Invocation Invocation := do
  let (front, rest) ← Level.front.read (fun _ => true) {} args
  match rest with
  | [] => return .misuse
  | name :: rest =>
    if name = "help" then return helpOn rest
    else
      match CommandForm.ofName? name with
      | none => return .misuse
      | some form =>
        let (behind, _) ← form.level.read (fun _ => false) {} rest
        let behind ← behind.settle
        let front ← front.settle
        match Command.ofGiven? name behind with
        | some command => return .run (.ofGiven front behind) command
        | none => return .misuse

/-- What the arguments ask for. -/
def ofArguments (args : List String) : Invocation :=
  match read args with
  | .ok i => i
  | .error i => i

end Invocation

end AdminConsole.CommandLine
