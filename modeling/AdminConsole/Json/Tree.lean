import AdminConsole.Json.Token

/-!
# JSON texts as written

A `Tree` is what a JSON text spells and no more: numbers keep their digits, objects keep all their
members in order, and nesting has no limit. Whether a number is in range, a key occurs twice or a
string holds an unpaired surrogate matters only to the one who looks at that part; a part that
nobody looks at only has to obey the grammar.

The reader takes one token at a time and keeps the arrays and objects it is inside of on a stack
(`Building`), so no depth of nesting is too much for it.
-/

namespace AdminConsole.Json

/-- A JSON text as written. The key of a member and the text of a string are missing where they
hold an unpaired surrogate escape. -/
inductive Tree where
  | null
  | bool (b : Bool)
  | number (n : Numeral)
  | string (text : Option String)
  | array (elements : List Tree)
  | object (members : List (Option String × Tree))
  deriving Inhabited

/-- An array or an object that a value is being read for: what it holds so far, last part first,
and the key that the value belongs to. -/
inductive Frame where
  | array (before : List Tree)
  | object (before : List (Option String × Tree)) (key : Option String)
  deriving Inhabited

/-- What may come next. -/
inductive Stage where
  /-- A value. -/
  | value
  /-- The first element of an array, or its end. -/
  | element
  /-- A comma or the end of an array with these elements, last one first. -/
  | afterElement (before : List Tree)
  /-- A key of an object with these members, last one first, or the end of an empty one. -/
  | key (before : List (Option String × Tree)) (first : Bool)
  /-- The colon after a key. -/
  | colon (before : List (Option String × Tree)) (key : Option String)
  /-- A comma or the end of an object with these members, last one first. -/
  | afterMember (before : List (Option String × Tree))
  /-- Nothing: the text is complete. -/
  | done (t : Tree)
  deriving Inhabited

/-- The arrays and objects that are open, innermost first, and what may come next. -/
structure Building where
  stack : List Frame := []
  stage : Stage := .value
  deriving Inhabited

namespace Building

/-- Goes on after a finished value, in the innermost open array or object. -/
def complete (t : Tree) : List Frame → Building
  | [] => ⟨[], .done t⟩
  | .array before :: stack => ⟨stack, .afterElement (t :: before)⟩
  | .object before key :: stack => ⟨stack, .afterMember ((key, t) :: before)⟩

/-- Reads a token that has to begin a value. -/
def value? (stack : List Frame) : Token → Option Building
  | .null => some (complete .null stack)
  | .bool b => some (complete (.bool b) stack)
  | .number n => some (complete (.number n) stack)
  | .string s => some (complete (.string s) stack)
  | .openArray => some ⟨stack, .element⟩
  | .openObject => some ⟨stack, .key [] true⟩
  | .closeArray | .closeObject | .colon | .comma => none

/-- Reads a token. -/
def next? (b : Building) (t : Token) : Option Building :=
  match b.stage with
  | .value => value? b.stack t
  | .element =>
    match t with
    | .closeArray => some (complete (.array []) b.stack)
    | t => value? (.array [] :: b.stack) t
  | .afterElement before =>
    match t with
    | .comma => some ⟨.array before :: b.stack, .value⟩
    | .closeArray => some (complete (.array before.reverse) b.stack)
    | _ => none
  | .key before first =>
    match t with
    | .string k => some ⟨b.stack, .colon before k⟩
    | .closeObject => if first then some (complete (.object []) b.stack) else none
    | _ => none
  | .colon before k =>
    match t with
    | .colon => some ⟨.object before k :: b.stack, .value⟩
    | _ => none
  | .afterMember before =>
    match t with
    | .comma => some ⟨b.stack, .key before false⟩
    | .closeObject => some (complete (.object before.reverse) b.stack)
    | _ => none
  | .done _ => none

/-- Reads a sequence of tokens. -/
def run? (b : Building) : List Token → Option Building
  | [] => some b
  | t :: ts => (b.next? t).bind fun b => b.run? ts

/-- The tree, once the text is complete. -/
def finish? (b : Building) : Option Tree :=
  match b.stage with
  | .done t => some t
  | _ => none

end Building

namespace Tree

/-- The tree that a sequence of tokens spells. -/
def ofTokens? (ts : List Token) : Option Tree :=
  (Building.run? {} ts).bind Building.finish?

/-- The tree that a text spells. -/
def parse? (text : String) : Option Tree :=
  (Token.scan? text.toList).bind ofTokens?

end Tree

end AdminConsole.Json
