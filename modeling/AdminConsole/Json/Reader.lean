import AdminConsole.Json.Basic
import AdminConsole.Json.Tree

/-!
# Reading values

`Tree.toJson?` is the value that a tree means. Reading a value looks at all of it, so every number
has to be in range, every surrogate escape paired, and arrays and objects may be nested no deeper
than the room that is left. `Json.parse?` reads a whole text, with room for `depthLimit` levels.
-/

namespace AdminConsole.Json

/-- How deep arrays and objects may be nested in a text that is looked at. -/
def depthLimit : Nat := 127

namespace Tree

mutual

/-- The value a tree means, with `room` levels of nesting to spend. -/
def toJson? (room : Nat) : Tree → Option Json
  | .null => some .null
  | .bool b => some (.bool b)
  | .number n => n.toNumber?.map .number
  | .string s => s.map .string
  | .array es =>
    match room with
    | 0 => none
    | room + 1 => (elementsToJson? room es).map .array
  | .object ms =>
    match room with
    | 0 => none
    | room + 1 => (membersToJson? room ms).map Json.ofMembers

/-- The values of the elements of an array. -/
def elementsToJson? (room : Nat) : List Tree → Option (List Json)
  | [] => some []
  | t :: ts => do
    let v ← toJson? room t
    let vs ← elementsToJson? room ts
    return v :: vs

/-- The members of an object, in the order in which they are written. -/
def membersToJson? (room : Nat) : List (Option String × Tree) → Option (List (String × Json))
  | [] => some []
  | (key, t) :: rest => do
    let k ← key
    let v ← toJson? room t
    let vs ← membersToJson? room rest
    return (k, v) :: vs

end

end Tree

/-- The value of a JSON text. -/
def parse? (text : String) : Option Json :=
  (Tree.parse? text).bind (Tree.toJson? depthLimit)

end AdminConsole.Json
