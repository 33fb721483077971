import AdminConsole.PathName

/-!
# The environment

The variables a program finds when it starts. An empty value counts as none wherever a variable
stands in for something the user did not say.

The system keeps a variable as one text, with an equals sign between its name and its value, and
looks for the first text that begins with a name and an equals sign. So a name that holds an equals
sign reaches into the value of another variable.
-/

namespace AdminConsole

/-- Variables and their values, and what the system knows of the user. -/
structure Environment where
  entries : List (String × String) := []
  /-- The home directory that the system has on record. -/
  recordedHome : Option String := none
  deriving Repr, DecidableEq, Inhabited

namespace Environment

/-- What stands behind the name and the equals sign in the text of a variable, if it begins with
those. -/
def valueOf? (name : String) (entry : String × String) : Option String :=
  let start := name.toList ++ ['=']
  let text := entry.1.toList ++ '=' :: entry.2.toList
  if start.isPrefixOf text then some (String.ofList (text.drop start.length)) else none

/-- The value of a variable. No variable has the empty name. -/
def get? (e : Environment) (name : String) : Option String :=
  if name = "" then none else e.entries.findSome? (valueOf? name)

/-- The value of a variable, if it is not empty. -/
def nonEmpty? (e : Environment) (name : String) : Option String :=
  (e.get? name).filter (· ≠ "")

/-- Gives a variable a value, unless it has one. No value can hold the character that ends texts for
the system. -/
def supply? (e : Environment) (name value : String) : Option Environment :=
  match e.get? name with
  | some _ => some e
  | none =>
    if value.toList.contains '\x00' then none
    else some { e with entries := e.entries ++ [(name, value)] }

/-! ### Where files are kept -/

/-- The home directory of the user: the one that the environment names, or else the one on
record. -/
def home? (e : Environment) : Option String := (e.nonEmpty? "HOME").or e.recordedHome

/-- A directory that a variable names, if it is an absolute path, or else one in the home
directory. -/
def directory? (e : Environment) (name fallback : String) : Option String :=
  match (e.get? name).filter PathName.isAbsolute with
  | some d => some d
  | none => e.home?.map fun home => PathName.join home fallback

/-- Where programs keep their settings. -/
def configDirectory? (e : Environment) : Option String := e.directory? "XDG_CONFIG_HOME" ".config"

/-- Where programs keep what they can do without. -/
def cacheDirectory? (e : Environment) : Option String := e.directory? "XDG_CACHE_HOME" ".cache"

end Environment

end AdminConsole
