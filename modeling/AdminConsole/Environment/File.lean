import AdminConsole.Environment.Basic
import AdminConsole.Text.Alphanumeric
import AdminConsole.Text.Blank

/-!
# Environment files

A file may supply variables that the environment lacks, one assignment `NAME=value` a line. A value
may be quoted: between single quotes every character stands for itself, between double quotes and
outside of quotes a backslash escapes the next character and `$NAME` or `${NAME}` stands for the
value of another variable. A line goes on into the next one while a quote is open or its last
character is escaped. A comment runs from a `#` to the end of the line; behind a value it has to be
set off by a blank.

Reading stops at the first line that is no assignment; what was read before it counts. A value that
no variable can have is more than that: the program cannot go on.
-/

namespace AdminConsole

open AdminConsole.Text

namespace EnvironmentFile

/-! ### Lines -/

/-- The lines of a text, each with the line feed that ends it. -/
def physicalLines : List Char → List (List Char)
  | [] => []
  | c :: r =>
    if c = '\n' then [c] :: physicalLines r
    else
      match physicalLines r with
      | [] => [[c]]
      | l :: ls => (c :: l) :: ls

/-- What the next character of a line is to be taken for. -/
inductive Quoting where
  | plain
  /-- After a single blank outside of quotes. -/
  | blank
  | escape
  | strong
  | strongEscape
  | weak
  | weakEscape
  deriving Repr, DecidableEq

/-- After a character outside of quotes. -/
def Quoting.outside (c : Char) : Quoting :=
  if c = '\\' then .escape
  else if c = '"' then .weak
  else if c = '\'' then .strong
  else .plain

/-- After a character. -/
def Quoting.next (q : Quoting) (c : Char) : Quoting :=
  match q with
  | .plain => if isBlankChar c ∧ c ≠ '\n' ∧ c ≠ '\r' then .blank else .outside c
  | .blank => .outside c
  | .escape => .plain
  | .strong => if c = '\\' then .strongEscape else if c = '\'' then .plain else .strong
  | .strongEscape => .strong
  | .weak => if c = '\\' then .weakEscape else if c = '"' then .plain else .weak
  | .weakEscape => .weak

/-- How a line ends and, if a comment begins in it, what stands before the comment. -/
def Quoting.scan (q : Quoting) : List Char → Quoting × Option (List Char)
  | [] => (q, none)
  | c :: r =>
    if q = .blank ∧ c = '#' then (.plain, some [])
    else
      let (q, before) := (q.next c).scan r
      (q, before.map (c :: ·))

/-- Joins lines for as long as a quote is open, and drops comments. The end of the text may not
come before the end of a line: nothing stands for a line that is not finished. -/
def logicalLines (begun : List Char) (q : Quoting) : List (List Char) → List (Option (List Char))
  | [] => if q = .plain then [] else [none]
  | l :: ls =>
    if (dropBlank (begun ++ l)).head? = some '#' then some [] :: logicalLines [] .plain ls
    else
      match q.scan l with
      | (_, some before) => some (begun ++ before) :: logicalLines [] .plain ls
      | (.plain, none) => some (begun ++ l) :: logicalLines [] .plain ls
      | (q, none) => logicalLines (begun ++ l) q ls

/-! ### Values -/

/-- Where the reader of a value stands. -/
inductive Mode where
  | plain
  | strong
  | escaped
  /-- In the name of a variable, in braces or not; its characters so far, last one first. -/
  | name (braced : Bool) (chars : List Char)
  /-- Behind the value. -/
  | ended
  deriving Repr, DecidableEq

/-- What has been read of a value: whether a double quote is open, where the reader stands, and the
characters so far, last one first. -/
structure Reading where
  weak : Bool := false
  mode : Mode := .plain
  output : List Char := []
  deriving Repr, DecidableEq

namespace Reading

/-- The value goes on with a character. -/
def push (s : Reading) (c : Char) : Reading := { s with mode := .plain, output := c :: s.output }

/-- The value goes on with that of a variable, which is empty if there is none. -/
def substitute (env : Environment) (s : Reading) (chars : List Char) : Reading :=
  let value := (env.get? (String.ofList chars.reverse)).getD ""
  { s with mode := .plain, output := value.toList.reverse ++ s.output }

/-- Reads a character of the name of a variable. The character that ends a name without braces
stands for itself, whatever it is, unless another name begins with it. -/
def inName (env : Environment) (s : Reading) (braced : Bool) (chars : List Char) (c : Char) :
    Reading :=
  if isAlphanumeric c then { s with mode := .name braced (c :: chars) }
  else if braced then
    if c = '}' then s.substitute env chars else { s with mode := .name braced (c :: chars) }
  else if c = '{' ∧ chars = [] then { s with mode := .name true [] }
  else
    let s := s.substitute env chars
    if c = '$' then { s with mode := .name false [] } else s.push c

/-- Reads an escaped character. -/
def escape? (s : Reading) (c : Char) : Option Reading :=
  if c = '\\' ∨ c = '\'' ∨ c = '"' ∨ c = '$' ∨ c = ' ' then some (s.push c)
  else if c = 'n' then some (s.push '\n')
  else none

/-- Reads a character that is neither escaped nor in a name nor between single quotes. -/
def plain (s : Reading) (c : Char) : Reading :=
  if c = '$' then { s with mode := .name false [] }
  else if c = '\\' then { s with mode := .escaped }
  else if c = '"' then { s with weak := !s.weak }
  else if s.weak then s.push c
  else if c = '\'' then { s with mode := .strong }
  else if c = ' ' ∨ c = '\t' then { s with mode := .ended }
  else s.push c

/-- The value, at its end. Quotes and braces have to be closed. -/
def finish? (env : Environment) (s : Reading) : Option String :=
  if s.weak then none
  else
    match s.mode with
    | .strong | .name true _ => none
    | .name false chars => some (String.ofList (s.substitute env chars).output.reverse)
    | .plain | .escaped | .ended => some (String.ofList s.output.reverse)

/-- Reads the rest of a value. Behind it nothing may follow but blanks and a comment. -/
def read? (env : Environment) (s : Reading) : List Char → Option String
  | [] => s.finish? env
  | c :: r =>
    match s.mode with
    | .ended =>
      if c = ' ' ∨ c = '\t' then s.read? env r else if c = '#' then s.finish? env else none
    | .escaped => (s.escape? c).bind fun s => s.read? env r
    | .strong =>
      if c = '\'' then { s with mode := .plain }.read? env r
      else { s with output := c :: s.output }.read? env r
    | .name braced chars => (s.inName env braced chars c).read? env r
    | .plain => (s.plain c).read? env r

end Reading

/-! ### Assignments -/

/-- A character that the name of a variable may begin with. -/
def isNameStart (c : Char) : Bool := ('a' ≤ c && c ≤ 'z') || ('A' ≤ c && c ≤ 'Z') || c == '_'

/-- A character of the name of a variable. -/
def isNameChar (c : Char) : Bool := isNameStart c || ('0' ≤ c && c ≤ '9') || c == '.'

/-- The name of a variable, and what follows behind blanks. -/
def name? (cs : List Char) : Option (String × List Char) :=
  if cs.head?.any isNameStart then
    some (String.ofList (cs.takeWhile isNameChar), dropBlank (cs.dropWhile isNameChar))
  else none

/-- What follows an equals sign. -/
def equals? : List Char → Option (List Char)
  | '=' :: r => some r
  | _ => none

/-- The name that is assigned to, and what follows the equals sign. The word `export` may stand
before the name, and is a name itself where an equals sign follows. -/
def target? (cs : List Char) : Option (String × List Char) := do
  let (name, rest) ← name? cs
  match equals? rest with
  | some rest => return (name, rest)
  | none =>
    if name = "export" then
      let (name, rest) ← name? rest
      return (name, ← equals? rest)
    else none

/-- The assignment on a line, if it is not empty; nothing at all if it holds something else. -/
def assignment? (env : Environment) (line : List Char) : Option (Option (String × String)) :=
  let cs := dropBlank (dropBlank line.reverse).reverse
  if cs = [] ∨ cs.head? = some '#' then some none
  else do
    let (name, rest) ← target? cs
    let rest := dropBlank rest
    if rest = [] ∨ rest.head? = some '#' then return some (name, "")
    else return some (name, ← Reading.read? env {} rest)

/-- The environment with the assignments on lines, up to the first line that has none. Nothing if a
variable is assigned what it cannot have. -/
def supply? (env : Environment) : List (Option (List Char)) → Option Environment
  | [] | none :: _ => some env
  | some line :: lines =>
    match assignment? env line with
    | none => some env
    | some none => supply? env lines
    | some (some (name, value)) => (env.supply? name value).bind fun env => supply? env lines

end EnvironmentFile

/-- The environment with the variables that the text of a file supplies. A byte order mark at the
start is no part of the text. -/
def Environment.withFile? (env : Environment) (text : String) : Option Environment :=
  let cs :=
    match text.toList with
    | '\uFEFF' :: r => r
    | cs => cs
  EnvironmentFile.supply? env
    (EnvironmentFile.logicalLines [] .plain (EnvironmentFile.physicalLines cs))

end AdminConsole
