import AdminConsole.Json.Reader

/-!
# Reading records

A record is read from an object, whose members may stand in any order among any number of unknown
ones, or from an array, whose elements are the fields in the order of their declaration. In both
forms a known field may be given once at most. What a missing field means depends on the field:

* `Fields.required` fails;
* `Fields.optional` is absent where an object lacks it, but an array has to hold it;
* `Fields.orElse` has a default in both forms.

A part that belongs to no known field is never looked at.
-/

namespace AdminConsole.Json

/-- The two forms in which a record may be written. -/
inductive Form where
  | object
  | array
  deriving Repr, DecidableEq

/-- The parts of a tree that belong to the fields of a record, each field given once at most. -/
structure Fields where
  form : Form
  parts : List (String × Tree)

namespace Tree

/-- The members of an object that belong to known fields, in order. No key, known or unknown, may
hold an unpaired surrogate, and no known one may occur twice. -/
def knownMembers? (names : List String) :
    List (Option String × Tree) → Option (List (String × Tree))
  | [] => some []
  | (none, _) :: _ => none
  | (some k, t) :: rest =>
    (knownMembers? names rest).bind fun parts =>
      if k ∈ names then
        if (parts.lookup k).isSome then none else some ((k, t) :: parts)
      else some parts

/-- The parts of a tree that belong to the fields of a record with these names. -/
def fields? (names : List String) : Tree → Option Fields
  | .object ms => (knownMembers? names ms).map fun parts => ⟨.object, parts⟩
  | .array es =>
    if es.length ≤ names.length then some ⟨.array, names.zip es⟩ else none
  | _ => none

/-! ### Values of simple types -/

/-- A text. -/
def asString? : Tree → Option String
  | .string s => s
  | _ => none

/-- A truth value. -/
def asBool? : Tree → Option Bool
  | .bool b => some b
  | _ => none

/-- A whole number within 64 bits, signed or unsigned. -/
def asInt? : Tree → Option Int
  | .number n => n.integer?
  | _ => none

/-- A signed 64-bit number. -/
def asInt64? (t : Tree) : Option Int64 :=
  t.asInt?.bind fun i =>
    if -0x8000000000000000 ≤ i ∧ i < 0x8000000000000000 then some (Int64.ofInt i) else none

/-- An unsigned 64-bit number. -/
def asUInt64? (t : Tree) : Option UInt64 :=
  t.asInt?.bind fun i => if 0 ≤ i then some (UInt64.ofNat i.toNat) else none

/-- A value that may be null. -/
def asOption? {α : Type} (read : Tree → Option α) : Tree → Option (Option α)
  | .null => some none
  | t => (read t).map some

/-- A list of values. -/
def asList? {α : Type} (read : Tree → Option α) : Tree → Option (List α)
  | .array es => es.mapM read
  | _ => none

/-- Nothing, which is written as null. -/
def asUnit? : Tree → Option Unit
  | .null => some ()
  | _ => none

end Tree

namespace Fields

/-- A field that has to be there. -/
def required {α : Type} (f : Fields) (name : String) (read : Tree → Option α) : Option α :=
  (f.parts.lookup name).bind read

/-- A field with a default. -/
def orElse {α : Type} (f : Fields) (name : String) (read : Tree → Option α) (default : α) :
    Option α :=
  match f.parts.lookup name with
  | none => some default
  | some t => read t

/-- A field that may be null, and that an object may leave out. -/
def optional {α : Type} (f : Fields) (name : String) (read : Tree → Option α) :
    Option (Option α) :=
  match f.parts.lookup name, f.form with
  | none, .object => some none
  | none, .array => none
  | some t, _ => t.asOption? read

end Fields

/-- Reads a text by a reader of trees. -/
def decode? {α : Type} (read : Tree → Option α) (text : String) : Option α :=
  (Tree.parse? text).bind read

end AdminConsole.Json
