/-!
# What the program accepts

The options of the program and its commands, with the names that the user knows them by, and the
explanations that the program gives of them.

An explanation says what a command does, how it is called, and then lists what may be said to it in
two columns. Options of the program are listed among those of a command: by their ranks at the
places where they belong, and of one rank by their names.
-/

namespace AdminConsole.CommandLine

/-- An option with the name of its value, if it takes one, and what it is for. -/
structure OptionForm where
  name : String
  value : Option String := none
  about : String := ""
  deriving Repr, DecidableEq

/-- A command with the names of its operands and its own options. Operands at the end may be left
out. -/
structure CommandForm where
  name : String
  about : String
  required : List String := []
  optional : List String := []
  options : List OptionForm := []
  deriving Repr, DecidableEq

/-- The options of the program, which may be given to every command. -/
def globalForms : List OptionForm :=
  [ ⟨"base-url", some "BASE_URL", "Instance address, e.g. http://127.0.0.1:6001"⟩,
    ⟨"log-file", some "LOG_FILE", "Also write logs to this file"⟩,
    ⟨"ephemeral", none, "Keep credentials in memory only; nothing is persisted"⟩ ]

/-- A command that sends a body, which may be left out. -/
def CommandForm.sending (name verb : String) : CommandForm :=
  ⟨name, verb ++ " a JSON body (defaults to `\x7b\x7d`)", ["PATH"], ["BODY"], []⟩

/-- The commands. -/
def commandForms : List CommandForm :=
  [ { name := "login", about := "Sign in and store the session"
      options := [⟨"email", some "EMAIL", ""⟩] },
    { name := "logout", about := "Sign out and forget the stored session" },
    { name := "whoami", about := "Show the signed-in user" },
    { name := "status", about := "Show where credentials live and how old they are" },
    { name := "tunnel-login", about := "Sign in to this instance's tunnel server"
      required := ["USERNAME"] },
    { name := "get", about := "GET an API path and print the JSON response"
      required := ["PATH"] },
    .sending "post" "POST",
    .sending "put" "PUT",
    .sending "patch" "PATCH",
    { name := "delete", about := "DELETE an API path", required := ["PATH"] } ]

/-- The command with a name. -/
def CommandForm.ofName? (name : String) : Option CommandForm :=
  commandForms.find? fun f => f.name == name

namespace CommandForm

/-- The names of the options that take a value. -/
def valueOptions (f : CommandForm) : List String :=
  (f.options.filter fun o => o.value.isSome).map OptionForm.name

/-- The greatest number of operands. -/
def operandLimit (f : CommandForm) : Nat := f.required.length + f.optional.length

end CommandForm

/-! ### Explanations -/

/-- What can be explained: the program, one of its commands, or how to get an explanation. -/
inductive HelpTopic where
  | program
  | command (form : CommandForm)
  | help
  deriving Repr, DecidableEq

namespace HelpTopic

/-- Two columns under a heading. -/
def listing (heading : String) (rows : List (String × String)) : String :=
  let width := rows.foldl (fun n r => max n r.1.length) 0
  heading ++ ":" ++ String.join (rows.map fun (left, right) =>
    "\n  " ++ left ++ String.ofList (List.replicate (width - left.length) ' ') ++ "  " ++ right)

/-- An option that has no letter of its own, as it is given. -/
def optionRow (o : OptionForm) : String × String :=
  ("    --" ++ o.name ++ (o.value.map fun v => " <" ++ v ++ ">").getD "", o.about)

/-- The options of the program and others, in the order in which they are listed. -/
def optionRows (own : List OptionForm) : List (String × String) :=
  let ranked := globalForms.zipIdx ++ own.zipIdx
  (ranked.mergeSort fun a b => a.2 < b.2 || (a.2 == b.2 && a.1.name ≤ b.1.name)).map fun r =>
    optionRow r.1

/-- The options with which an explanation is asked for. -/
def helpRow : String × String := ("-h, --help", "Print help")

/-- The options with which the version is asked for. -/
def versionRow : String × String := ("-V, --version", "Print version")

/-- What the command that explains others does. -/
def helpAbout : String := "Print this message or the help of the given subcommand(s)"

/-- An explanation: what is explained, how it is called, and what may be said to it. -/
def explanation (about call : String) (listings : List String) : String :=
  "\n\n".intercalate (about :: ("Usage: redock " ++ call) :: listings) ++ "\n"

/-- The operands of a command, as they are given. -/
def operands (f : CommandForm) : List String :=
  f.required.map (fun n => "<" ++ n ++ ">") ++ f.optional.map (fun n => "[" ++ n ++ "]")

/-- The explanation of a topic. -/
def text : HelpTopic → String
  | program =>
    explanation "Command-line console for a Redock instance" "[OPTIONS] <COMMAND>"
      [ listing "Commands"
          (commandForms.map (fun f => (f.name, f.about)) ++ [("help", helpAbout)]),
        listing "Options" (optionRows [] ++ [helpRow, versionRow]) ]
  | command f =>
    explanation f.about (" ".intercalate ([f.name, "[OPTIONS]"] ++ operands f))
      ((if operands f = [] then []
          else [listing "Arguments" ((operands f).map fun o => (o, ""))]) ++
        [listing "Options" (optionRows f.options ++ [helpRow])])
  | help =>
    explanation helpAbout "help [COMMAND]..."
      [listing "Arguments" [("[COMMAND]...", "Print help for the subcommand(s)")]]

end HelpTopic

/-- The version of the program. -/
def versionText : String := "redock 0.4.0\n"

end AdminConsole.CommandLine
