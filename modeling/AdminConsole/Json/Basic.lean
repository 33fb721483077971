import AdminConsole.Json.Numeral

/-!
# JSON values

`Json` is a JSON value as a program holds it. The members of an object stand in the order in which
they are written; `Json.ofMembers` builds the object that a text means, in which keys are sorted by
code point and of two members with one key the later counts.
-/

namespace AdminConsole

/-- A JSON value. -/
inductive Json where
  | null
  | bool (b : Bool)
  | number (n : Json.Number)
  | string (s : String)
  | array (elements : List Json)
  | object (members : List (String × Json))
  deriving Repr, Inhabited

namespace Json

/-- A whole number. -/
def int (i : Int) : Json := .number (.int i)

/-- A whole number that is not negative. -/
def nat (n : Nat) : Json := .number (.int n)

/-- A text, or null where there is none. -/
def ofText? : Option String → Json
  | none => .null
  | some s => .string s

/-- Puts a member where its key belongs. A member that already has the key is replaced. -/
def insertMember (key : String) (v : Json) : List (String × Json) → List (String × Json)
  | [] => [(key, v)]
  | (k, w) :: rest =>
    if key = k then (k, v) :: rest
    else if key < k then (key, v) :: (k, w) :: rest
    else (k, w) :: insertMember key v rest

/-- The object with these members: sorted by key, a later member replacing an earlier one. -/
def ofMembers (members : List (String × Json)) : Json :=
  .object (members.foldl (fun sorted (k, v) => insertMember k v sorted) [])

/-- The value a member of an object has. -/
def member? (key : String) : Json → Option Json
  | .object members => members.lookup key
  | _ => none

/-- The text, of a string. -/
def string? : Json → Option String
  | .string s => some s
  | _ => none

/-- The elements, of an array. -/
def array? : Json → Option (List Json)
  | .array es => some es
  | _ => none

/-- The integer, of a number that is one. -/
def int? : Json → Option Int
  | .number (.int i) => some i
  | _ => none

end Json

end AdminConsole
