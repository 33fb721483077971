import AdminConsole.Json.Tree

/-!
# What a JSON text is

The grammar of JSON, as relations between what is written and the characters it is written with;
there is no reader in them. Every relation is named for what its characters are the text of, from
the pieces of a string (`PieceText`) and the parts of a number (`NumeralText`) up to values
(`ValueText`), around which there may be white space. Nothing is said about the range of a number,
the depth of the nesting or the number of times that a key occurs.

A string may hold escaped surrogates without partner. It is a string all the same, but there is no
text that it means (`Piece.chars?`).
-/

namespace AdminConsole.Json

open AdminConsole.Text

/-- White space. -/
def IsSpace (c : Char) : Prop := c = ' ' ∨ c = '\t' ∨ c = '\n' ∨ c = '\r'

/-! ### Strings -/

/-- A piece of a string: a character, which may stand as it is or be escaped by a letter, or a
UTF-16 unit that is escaped by its number. -/
inductive Piece where
  | char (c : Char)
  | unit (u : Nat)

/-- The first unit of two that are one character. -/
def IsLeading (u : Nat) : Prop := 0xD800 ≤ u ∧ u ≤ 0xDBFF

/-- The second unit of two that are one character. -/
def IsTrailing (u : Nat) : Prop := 0xDC00 ≤ u ∧ u ≤ 0xDFFF

instance (u : Nat) : Decidable (IsLeading u) := inferInstanceAs (Decidable (_ ∧ _))

instance (u : Nat) : Decidable (IsTrailing u) := inferInstanceAs (Decidable (_ ∧ _))

theorem IsTrailing.not_isLeading {u : Nat} (h : IsTrailing u) : ¬ IsLeading u := by
  have hlow : 0xDC00 ≤ u := h.1
  intro hleading
  have hhigh : u ≤ 0xDBFF := hleading.2
  omega

/-- The characters that pieces stand for, if every surrogate among them has its partner. -/
def Piece.chars? : List Piece → Option (List Char)
  | [] => some []
  | .char c :: ps => (chars? ps).map (c :: ·)
  | .unit u :: ps =>
    if IsLeading u then
      match ps with
      | .unit v :: qs =>
        if IsTrailing v then
          (chars? qs).map (Char.ofNat (0x10000 + (u - 0xD800) * 0x400 + (v - 0xDC00)) :: ·)
        else none
      | _ => none
    else if IsTrailing u then none
    else (chars? ps).map (Char.ofNat u :: ·)

namespace Piece

variable {u v : Nat} {ps : List Piece}

/-- What a unit stands for depends on what follows it only if it is a first one of two. -/
theorem chars?_cons (u : Nat) (ps : List Piece) :
    chars? (.unit u :: ps) =
      if IsLeading u then
        match ps with
        | .unit v :: qs =>
          if IsTrailing v then
            (chars? qs).map (Char.ofNat (0x10000 + (u - 0xD800) * 0x400 + (v - 0xDC00)) :: ·)
          else none
        | _ => none
      else if IsTrailing u then none
      else (chars? ps).map (Char.ofNat u :: ·) := by
  rcases ps with _ | ⟨_ | _, ps⟩ <;> rfl

theorem chars?_unit (hu : ¬ IsLeading u) (hu' : ¬ IsTrailing u) :
    chars? (.unit u :: ps) = (chars? ps).map (Char.ofNat u :: ·) := by
  rw [chars?_cons, if_neg hu, if_neg hu']

theorem chars?_pair (hu : IsLeading u) (hv : IsTrailing v) :
    chars? (.unit u :: .unit v :: ps) =
      (chars? ps).map (Char.ofNat (0x10000 + (u - 0xD800) * 0x400 + (v - 0xDC00)) :: ·) := by
  simp only [chars?_cons, if_pos hu, if_pos hv]

/-- A second unit that no first one precedes has no partner. -/
theorem chars?_trailing (hu : IsTrailing u) : chars? (.unit u :: ps) = none := by
  have hu' : ¬ IsLeading u := hu.not_isLeading
  rw [chars?_cons, if_neg hu', if_pos hu]

/-- A first unit that no second one follows has no partner. -/
theorem chars?_leading (hu : IsLeading u) (h : ∀ v qs, ps = .unit v :: qs → ¬ IsTrailing v) :
    chars? (.unit u :: ps) = none := by
  rw [chars?_cons, if_pos hu]
  split
  · next v qs => rw [if_neg (h v qs rfl)]
  · rfl

end Piece

/-- The letters that escape a character, each with its character. -/
def shortEscapes : List (Char × Char) :=
  [('"', '"'), ('\\', '\\'), ('/', '/'), ('b', '\x08'), ('f', '\x0c'), ('n', '\n'), ('r', '\r'),
    ('t', '\t')]

/-- How a piece is written. -/
inductive PieceText : Piece → List Char → Prop
  | plain {c : Char} (hcontrol : ¬ c < ' ') (hquote : c ≠ '"') (hback : c ≠ '\\') :
      PieceText (.char c) [c]
  | short {letter c : Char} (h : (letter, c) ∈ shortEscapes) : PieceText (.char c) ['\\', letter]
  | unit {a b c d : Char} {p q r s : Nat} (ha : hexValue? a = some p) (hb : hexValue? b = some q)
      (hc : hexValue? c = some r) (hd : hexValue? d = some s) :
      PieceText (.unit (((p * 16 + q) * 16 + r) * 16 + s)) ['\\', 'u', a, b, c, d]

/-- How the pieces of a string are written. -/
inductive PiecesText : List Piece → List Char → Prop
  | nil : PiecesText [] []
  | cons {p : Piece} {ps : List Piece} {cs ds : List Char} (h : PieceText p cs)
      (hs : PiecesText ps ds) : PiecesText (p :: ps) (cs ++ ds)

/-- How a string is written. -/
inductive StringText : Option String → List Char → Prop
  | quoted {ps : List Piece} {cs : List Char} (h : PiecesText ps cs) :
      StringText ((Piece.chars? ps).map String.ofList) ('"' :: (cs ++ ['"']))

/-! ### Numbers -/

/-- One digit or more. -/
def IsDigits (ds : List Char) : Prop := ds ≠ [] ∧ ∀ d ∈ ds, isDigit d = true

/-- The digits of a whole number, which does not begin with a zero unless it is zero. -/
def IsWhole (ds : List Char) : Prop := IsDigits ds ∧ (ds.head? = some '0' → ds = ['0'])

/-- How the part behind the point is written, with the point. -/
inductive FractionText : Option (List Char) → List Char → Prop
  | absent : FractionText none []
  | point {ds : List Char} (h : IsDigits ds) : FractionText (some ds) ('.' :: ds)

/-- How an exponent is written, with its mark. -/
inductive ExponentText : Option (Bool × List Char) → List Char → Prop
  | absent : ExponentText none []
  | bare {mark : Char} {ds : List Char} (hmark : mark = 'e' ∨ mark = 'E') (h : IsDigits ds) :
      ExponentText (some (false, ds)) (mark :: ds)
  | plus {mark : Char} {ds : List Char} (hmark : mark = 'e' ∨ mark = 'E') (h : IsDigits ds) :
      ExponentText (some (false, ds)) (mark :: '+' :: ds)
  | minus {mark : Char} {ds : List Char} (hmark : mark = 'e' ∨ mark = 'E') (h : IsDigits ds) :
      ExponentText (some (true, ds)) (mark :: '-' :: ds)

/-- How a number is written. -/
inductive NumeralText : Numeral → List Char → Prop
  | positive {whole fs es : List Char} {fraction : Option (List Char)}
      {exponent : Option (Bool × List Char)} (hwhole : IsWhole whole)
      (hfraction : FractionText fraction fs) (hexponent : ExponentText exponent es) :
      NumeralText ⟨false, whole, fraction, exponent⟩ (whole ++ (fs ++ es))
  | negative {whole fs es : List Char} {fraction : Option (List Char)}
      {exponent : Option (Bool × List Char)} (hwhole : IsWhole whole)
      (hfraction : FractionText fraction fs) (hexponent : ExponentText exponent es) :
      NumeralText ⟨true, whole, fraction, exponent⟩ ('-' :: (whole ++ (fs ++ es)))

/-! ### Values -/

mutual

/-- How a value is written. -/
inductive ValueText : Tree → List Char → Prop
  | null : ValueText .null ['n', 'u', 'l', 'l']
  | true : ValueText (.bool Bool.true) ['t', 'r', 'u', 'e']
  | false : ValueText (.bool Bool.false) ['f', 'a', 'l', 's', 'e']
  | number {n : Numeral} {cs : List Char} (h : NumeralText n cs) : ValueText (.number n) cs
  | string {s : Option String} {cs : List Char} (h : StringText s cs) : ValueText (.string s) cs
  | emptyArray {cs : List Char} (h : ∀ c ∈ cs, IsSpace c) :
      ValueText (.array []) ('[' :: (cs ++ [']']))
  | array {ts : List Tree} {cs : List Char} (h : ElementsText ts cs) :
      ValueText (.array ts) ('[' :: (cs ++ [']']))
  | emptyObject {cs : List Char} (h : ∀ c ∈ cs, IsSpace c) :
      ValueText (.object []) ('{' :: (cs ++ ['}']))
  | object {ms : List (Option String × Tree)} {cs : List Char} (h : MembersText ms cs) :
      ValueText (.object ms) ('{' :: (cs ++ ['}']))
  | spaceBefore {t : Tree} {c : Char} {cs : List Char} (hc : IsSpace c) (h : ValueText t cs) :
      ValueText t (c :: cs)
  | spaceAfter {t : Tree} {c : Char} {cs : List Char} (hc : IsSpace c) (h : ValueText t cs) :
      ValueText t (cs ++ [c])

/-- How the elements of an array are written, one at least. -/
inductive ElementsText : List Tree → List Char → Prop
  | one {t : Tree} {cs : List Char} (h : ValueText t cs) : ElementsText [t] cs
  | cons {t : Tree} {ts : List Tree} {cs ds : List Char} (h : ValueText t cs)
      (hs : ElementsText ts ds) : ElementsText (t :: ts) (cs ++ ',' :: ds)

/-- How the members of an object are written, one at least. Each is a string, a colon and a
value. -/
inductive MembersText : List (Option String × Tree) → List Char → Prop
  | one {k : Option String} {t : Tree} {ks cs : List Char} (hk : ValueText (.string k) ks)
      (h : ValueText t cs) : MembersText [(k, t)] (ks ++ ':' :: cs)
  | cons {k : Option String} {t : Tree} {ms : List (Option String × Tree)} {ks cs ds : List Char}
      (hk : ValueText (.string k) ks) (h : ValueText t cs) (hs : MembersText ms ds) :
      MembersText ((k, t) :: ms) (ks ++ ':' :: (cs ++ ',' :: ds))

end

end AdminConsole.Json
