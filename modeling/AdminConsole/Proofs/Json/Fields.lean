import AdminConsole.Json.Record
import AdminConsole.Proofs.Json.RoundTrip

/-!
# Fields that are written and read back

What a record holds is written as texts that may be missing, whole numbers and lists of texts. Each
kind has a tree of its own, and from this tree it is read as it was. The numbers are those of 64
bits, signed or not (`Numeral.integer?_ofInt`); beyond them a numeral means a double.
-/

namespace AdminConsole.Json

open AdminConsole.Text

/-! ### Looking a field up -/

theorem Fields.orElse_eq {α : Type} {f : Fields} {name : String} {t : Tree}
    (h : f.parts.lookup name = some t) (read : Tree → Option α) (default : α) :
    f.orElse name read default = read t := by
  simp only [Fields.orElse, h]

/-! ### Texts -/

/-- The tree of a text, or of null where there is none. -/
def textTree : Option String → Tree
  | none => .null
  | some s => .string (some s)

@[simp] theorem tree?_ofText? (text : Option String) :
    (Json.ofText? text).tree? = some (textTree text) := by
  cases text <;> rfl

theorem Tree.asOption?_asString? (text : Option String) :
    (textTree text).asOption? Tree.asString? = some text := by
  cases text <;> rfl

/-- The tree of a list of texts. -/
def textsTree (texts : List String) : Tree := .array (texts.map fun s => .string (some s))

theorem elementTrees?_map_string (texts : List String) :
    elementTrees? (texts.map .string) = some (texts.map fun s => .string (some s)) := by
  induction texts with
  | nil => rfl
  | cons s texts ih =>
    simp only [List.map_cons, elementTrees?, tree?, ih, bind, pure, Option.bind_some]

theorem Tree.asList?_textsTree (texts : List String) :
    (textsTree texts).asList? Tree.asString? = some texts := by
  simp only [textsTree, Tree.asList?]
  induction texts with
  | nil => rfl
  | cons s texts ih => simp [List.mapM_cons, Tree.asString?, ih]

/-! ### Numbers -/

/-- A whole number of 64 bits, signed or not, is exact. -/
theorem Numeral.integer?_ofInt {i : Int} (hlow : -0x8000000000000000 ≤ i)
    (hhigh : i ≤ 0xFFFFFFFFFFFFFFFF) : (Numeral.ofInt i).integer? = some i := by
  simp only [integer?, ofInt, value_digits, decide_eq_true_eq]
  split_ifs with hnegative hrange hrange
  · rw [Option.some_inj]
    omega
  · omega
  · rw [Option.some_inj]
    omega
  · simp only [limit] at hrange
    omega

theorem Tree.asUInt64?_ofInt (n : UInt64) :
    Tree.asUInt64? (.number (.ofInt n.toNat)) = some n := by
  have hlt : n.toNat < 2 ^ 64 := n.toNat_lt
  have hexact : (Numeral.ofInt n.toNat).integer? = some (n.toNat : Int) :=
    Numeral.integer?_ofInt (by omega) (by omega)
  simp [Tree.asUInt64?, Tree.asInt?, hexact]

theorem Tree.asInt64?_ofInt (i : Int64) :
    Tree.asInt64? (.number (.ofInt i.toInt)) = some i := by
  have hlow : -2 ^ 63 ≤ i.toInt := i.le_toInt
  have hhigh : i.toInt < 2 ^ 63 := i.toInt_lt
  have hexact : (Numeral.ofInt i.toInt).integer? = some i.toInt :=
    Numeral.integer?_ofInt (by omega) (by omega)
  simp only [Tree.asInt64?, Tree.asInt?, hexact, Option.bind_some]
  rw [if_pos (by omega), Int64.ofInt_toInt]

end AdminConsole.Json
