import AdminConsole.Json.Printer
import AdminConsole.Proofs.Json.Spelling
import AdminConsole.Proofs.Text.Digits
import Mathlib.Tactic.IntervalCases
import Mathlib.Tactic.SplitIfs

/-!
# How strings and numbers are spelled

Whatever the grammar lets be written between quotes or as a number spells what it is the text of
(`spells_stringText`, `spells_numeralText`). The strings and the whole numbers of a printer are
among it (`stringText_quote`, `numeralText_intText`).

A string is read piece by piece. A leading surrogate has to wait for the next piece, so what is
kept from step to step is what the string comes to with the pieces it still lacks
(`StringScan.rest?_take`). A number is read part by part, and ends in front of what cannot be part
of it.
-/

namespace AdminConsole.Json

open AdminConsole.Text

/-! ### Strings -/

namespace StringScan

/-- A string that has been begun, after one more piece. -/
def take (s : StringScan) : Piece → StringScan
  | .char c => s.push c
  | .unit u => s.pushUnit u

theorem escape_take (s : StringScan) (p : Piece) : (s.take p).escape = .plain := by
  cases p with
  | char c => rfl
  | unit u =>
    simp only [take, pushUnit]
    split_ifs
    · rfl
    · split <;> rfl
    · rfl

theorem shortEscape?_of_mem {letter c : Char} (h : (letter, c) ∈ shortEscapes) :
    letter ≠ 'u' ∧ shortEscape? letter = some c := by
  have hall : ∀ e ∈ shortEscapes, e.1 ≠ 'u' ∧ shortEscape? e.1 = some e.2 := by decide
  exact hall (letter, c) h

theorem take_unit_of_isLeading {u : Nat} (hu : IsLeading u) (s : StringScan) :
    s.take (.unit u) =
      { s with sound := s.sound && s.lead.isNone, lead := some u, escape := .plain } :=
  if_pos hu

theorem take_unit_of_isTrailing {u : Nat} (hu : IsTrailing u) (s : StringScan) :
    s.take (.unit u) =
      match s.lead with
      | some l =>
        { s with
          chars := Char.ofNat (0x10000 + (l - 0xD800) * 0x400 + (u - 0xDC00)) :: s.chars
          lead := none
          escape := .plain }
      | none => { s with sound := false, escape := .plain } := by
  exact (if_neg hu.not_isLeading).trans (if_pos hu)

theorem take_unit {u : Nat} (hu : ¬ IsLeading u) (hu' : ¬ IsTrailing u) (s : StringScan) :
    s.take (.unit u) = s.push (Char.ofNat u) :=
  (if_neg hu).trans (if_neg hu')

/-- The characters that a string comes to that has been begun, if these are the pieces it still
lacks. A leading surrogate that waits for its partner counts with them. -/
def rest? (s : StringScan) (ps : List Piece) : Option (List Char) :=
  if s.sound then (Piece.chars? (s.lead.toList.map .unit ++ ps)).map (s.chars.reverse ++ ·)
  else none

/-- A leading surrogate that waits has no partner if the next piece is none. -/
theorem rest?_eq_none {s : StringScan} {l : Nat} (hscan : s.lead = some l) (hl : IsLeading l)
    {p : Piece} (hp : ∀ v, p = .unit v → ¬ IsTrailing v) (ps : List Piece) :
    s.rest? (p :: ps) = none := by
  have halone : Piece.chars? (.unit l :: p :: ps) = none := by
    refine Piece.chars?_leading hl ?_
    rintro v qs heq
    exact hp v (List.cons.inj heq).1
  simp [rest?, hscan, halone]

/-- A piece that is a character by itself is added to what has been read. -/
theorem rest?_push {s : StringScan} (hlead : ∀ l ∈ s.lead, IsLeading l) {p : Piece} {c : Char}
    {ps : List Piece} (hp : Piece.chars? (p :: ps) = (Piece.chars? ps).map (c :: ·))
    (hpartner : ∀ v, p = .unit v → ¬ IsTrailing v) : (s.push c).rest? ps = s.rest? (p :: ps) := by
  cases hscan : s.lead with
  | none => simp [rest?, push, hscan, hp, Function.comp_def]
  | some l =>
    rw [rest?_eq_none hscan (hlead l hscan) hpartner ps]
    simp [rest?, push, hscan]

/-- A piece may be read or still be lacking. -/
theorem rest?_take {s : StringScan} (hlead : ∀ l ∈ s.lead, IsLeading l) (p : Piece)
    (ps : List Piece) : (s.take p).rest? ps = s.rest? (p :: ps) := by
  cases p with
  | char c => exact rest?_push hlead rfl nofun
  | unit u =>
    by_cases hu : IsLeading u
    · rw [take_unit_of_isLeading hu]
      cases hscan : s.lead with
      | none => simp [rest?, hscan]
      | some l =>
        have hpartner (v : Nat) (heq : Piece.unit u = .unit v) : ¬ IsTrailing v := by
          rw [← Piece.unit.inj heq]
          exact fun htrailing => htrailing.not_isLeading hu
        rw [rest?_eq_none hscan (hlead l hscan) hpartner ps]
        simp [rest?]
    · by_cases hu' : IsTrailing u
      · rw [take_unit_of_isTrailing hu']
        cases hscan : s.lead with
        | none => simp [rest?, hscan, Piece.chars?_trailing hu']
        | some l =>
          simp [rest?, hscan, Piece.chars?_pair (hlead l hscan) hu', Function.comp_def]
      · rw [take_unit hu hu']
        refine rest?_push hlead (Piece.chars?_unit hu hu') ?_
        rintro v heq
        rwa [← Piece.unit.inj heq]

theorem isLeading_lead_take (s : StringScan) (p : Piece) :
    ∀ l ∈ (s.take p).lead, IsLeading l := by
  cases p with
  | char c => exact nofun
  | unit u =>
    by_cases hu : IsLeading u
    · rw [take_unit_of_isLeading hu]
      rintro l hl
      rwa [← Option.some.inj hl]
    · by_cases hu' : IsTrailing u
      · rw [take_unit_of_isTrailing hu']
        cases hscan : s.lead with
        | none => simp
        | some l => exact nofun
      · rw [take_unit hu hu']
        exact nofun

/-- What a string that has been begun comes to with all the pieces that it lacks. -/
theorem text?_foldl_take (ps : List Piece) {s : StringScan} (hlead : ∀ l ∈ s.lead, IsLeading l) :
    (ps.foldl take s).text? = (s.rest? ps).map String.ofList := by
  induction ps generalizing s with
  | nil =>
    cases hscan : s.lead with
    | none => simp [rest?, text?, hscan, Piece.chars?]
    | some l =>
      have halone : Piece.chars? [.unit l] = none := Piece.chars?_leading (hlead l hscan) nofun
      simp [rest?, text?, hscan, halone]
  | cons p ps ih => rw [List.foldl_cons, ih (isLeading_lead_take s p), rest?_take hlead]

end StringScan

namespace Lexing

theorem run?_pieceText (tokens : List Token) {s : StringScan} (hs : s.escape = .plain) {p : Piece}
    {cs : List Char} (h : PieceText p cs) :
    run? ⟨tokens, .string s⟩ cs = some ⟨tokens, .string (s.take p)⟩ := by
  cases h with
  | plain hcontrol hquote hback =>
    simp [run?, next?, StringScan.next?, StringScan.take, hs, hcontrol, hquote, hback]
  | @short letter c hletter =>
    obtain ⟨hunit, hc⟩ := StringScan.shortEscape?_of_mem hletter
    have hbegun : next? ⟨tokens, .string s⟩ '\\' =
        some ⟨tokens, .string { s with escape := .begun }⟩ := by
      simp [next?, StringScan.next?, hs]
    have hpush : next? ⟨tokens, .string { s with escape := .begun }⟩ letter =
        some ⟨tokens, .string (s.push c)⟩ := by
      simp [next?, StringScan.next?, hunit, hc, StringScan.push]
    simp only [run?, hbegun, hpush, Option.bind_some, StringScan.take]
  | @unit a b c d p q r u ha hb hc hd =>
    have hbegun : run? ⟨tokens, .string s⟩ ['\\', 'u'] =
        some ⟨tokens, .string { s with escape := .unit 0 4 }⟩ := by
      simp [run?, next?, StringScan.next?, hs]
    have hdigit {x : Char} {v : Nat} (hx : hexValue? x = some v) (before owed : Nat) :
        next? ⟨tokens, .string { s with escape := .unit before (owed + 2) }⟩ x =
          some ⟨tokens, .string { s with escape := .unit (before * 16 + v) (owed + 1) }⟩ := by
      simp [next?, StringScan.next?, hx]
    have hlast (before : Nat) :
        next? ⟨tokens, .string { s with escape := .unit before 1 }⟩ d =
          some ⟨tokens, .string (s.pushUnit (before * 16 + u))⟩ := by
      simp [next?, StringScan.next?, hd, StringScan.pushUnit, StringScan.push]
    refine (run?_append_of_eq_some hbegun [a, b, c, d]).trans ?_
    simp only [run?, hdigit ha, hdigit hb, hdigit hc, hlast, Option.bind_some, StringScan.take,
      Nat.zero_mul, Nat.zero_add]

theorem run?_piecesText (tokens : List Token) {s : StringScan} (hs : s.escape = .plain)
    {ps : List Piece} {cs : List Char} (h : PiecesText ps cs) :
    run? ⟨tokens, .string s⟩ cs = some ⟨tokens, .string (ps.foldl .take s)⟩ := by
  induction h generalizing s with
  | nil => rfl
  | @cons p ps cs ds hp _ ih =>
    rw [run?_append_of_eq_some (run?_pieceText tokens hs hp) ds, ih (s.escape_take p),
      List.foldl_cons]

end Lexing

theorem StringScan.escape_foldl_take (ps : List Piece) {s : StringScan} (hs : s.escape = .plain) :
    (ps.foldl take s).escape = .plain := by
  induction ps generalizing s with
  | nil => exact hs
  | cons p ps ih => exact ih (s.escape_take p)

/-- A string spells its text, if it has one. -/
theorem spells_stringText {text : Option String} {cs : List Char} (h : StringText text cs) :
    Spells cs [.string text] := by
  obtain @⟨ps, cs, hpieces⟩ := h
  refine .of_run? fun tokens => ?_
  have hopen : Lexing.next? ⟨tokens, .between⟩ '"' = some ⟨tokens, .string {}⟩ := rfl
  have hplain : (ps.foldl StringScan.take {}).escape = .plain :=
    StringScan.escape_foldl_take ps rfl
  have hrest : StringScan.rest? {} ps = Piece.chars? ps := by simp [StringScan.rest?]
  have htext : (ps.foldl StringScan.take {}).text? = (Piece.chars? ps).map String.ofList := by
    rw [StringScan.text?_foldl_take ps (by simp), hrest]
  have hclose : Lexing.next? ⟨tokens, .string (ps.foldl StringScan.take {})⟩ '"' =
      some ⟨.string ((Piece.chars? ps).map String.ofList) :: tokens, .between⟩ := by
    simp [Lexing.next?, hplain, htext]
  rw [Lexing.run?, hopen, Option.bind_some,
    Lexing.run?_append_of_eq_some (Lexing.run?_piecesText tokens rfl hpieces), Lexing.run?, hclose]
  rfl

/-- An escaped character is a piece that stands for this character. -/
theorem exists_pieceText_escapeChar (c : Char) :
    ∃ p, PieceText p (escapeChar c) ∧
      ∀ ps, Piece.chars? (p :: ps) = (Piece.chars? ps).map (c :: ·) := by
  have hshort {letter : Char} (h : (letter, c) ∈ shortEscapes) :
      ∃ p, PieceText p ['\\', letter] ∧
        ∀ ps, Piece.chars? (p :: ps) = (Piece.chars? ps).map (c :: ·) :=
    ⟨.char c, .short h, fun _ => rfl⟩
  unfold escapeChar
  split_ifs with hquote hback hbell hfeed hline hreturn htab hcontrol
  · exact hshort (by rw [hquote]; decide)
  · exact hshort (by rw [hback]; decide)
  · exact hshort (by rw [hbell]; decide)
  · exact hshort (by rw [hfeed]; decide)
  · exact hshort (by rw [hline]; decide)
  · exact hshort (by rw [hreturn]; decide)
  · exact hshort (by rw [htab]; decide)
  · -- A control character is the unit with its number, which has two digits that are not zero.
    have hlt : c.toNat < 32 := hcontrol
    have hzero : hexValue? '0' = some 0 := rfl
    have htext := PieceText.unit hzero hzero
      (hexValue?_hexDigit (n := c.toNat / 16) (by omega))
      (hexValue?_hexDigit (n := c.toNat % 16) (by omega))
    have hvalue : ((0 * 16 + 0) * 16 + c.toNat / 16) * 16 + c.toNat % 16 = c.toNat := by omega
    rw [hvalue] at htext
    refine ⟨.unit c.toNat, htext, fun ps => ?_⟩
    have hleading : ¬ IsLeading c.toNat := fun h => by
      have hlow : 0xD800 ≤ c.toNat := h.1
      omega
    have htrailing : ¬ IsTrailing c.toNat := fun h => by
      have hlow : 0xDC00 ≤ c.toNat := h.1
      omega
    rw [Piece.chars?_unit hleading htrailing, Char.ofNat_toNat]
  · exact ⟨.char c, .plain hcontrol hquote hback, fun _ => rfl⟩

/-- A text between quotes is written as a string with this text. -/
theorem stringText_quote (s : String) : StringText (some s) (quote s) := by
  have hpieces (cs : List Char) :
      ∃ ps, PiecesText ps (cs.flatMap escapeChar) ∧ Piece.chars? ps = some cs := by
    induction cs with
    | nil => exact ⟨[], .nil, rfl⟩
    | cons c cs ih =>
      obtain ⟨ps, hps, hchars⟩ := ih
      obtain ⟨p, hp, hc⟩ := exists_pieceText_escapeChar c
      exact ⟨p :: ps, .cons hp hps, by rw [hc, hchars, Option.map_some]⟩
  obtain ⟨ps, hps, hchars⟩ := hpieces s.toList
  have hstring := StringText.quoted hps
  rwa [hchars, Option.map_some, String.ofList_toList] at hstring

/-! ### Numbers -/

namespace NumeralScan

/-- A number of which the digits before the point have been read, and nothing else. -/
def ofWhole (negative : Bool) (whole : List Char) : NumeralScan :=
  { part := if whole = ['0'] then .zero else .whole, negative := negative, whole := whole.reverse }

theorem part_ofWhole (negative : Bool) (whole : List Char) :
    (ofWhole negative whole).part = .zero ∨ (ofWhole negative whole).part = .whole := by
  unfold ofWhole
  split_ifs with hzero
  · exact .inl rfl
  · exact .inr rfl

/-- The number with a part behind the point, if there is one. -/
def addFraction (n : NumeralScan) : Option (List Char) → NumeralScan
  | none => n
  | some ds => { n with part := .fraction, fraction := some ds.reverse }

/-- The number with an exponent, if there is one. -/
def addExponent (n : NumeralScan) : Option (Bool × List Char) → NumeralScan
  | none => n
  | some (negative, ds) =>
    { n with part := .exponent, exponent := some (negative, ds.reverse) }

/-- All parts of a number make the number. -/
theorem numeral?_addExponent (negative : Bool) (whole : List Char) (fraction : Option (List Char))
    (exponent : Option (Bool × List Char)) :
    (((ofWhole negative whole).addFraction fraction).addExponent exponent).numeral? =
      some ⟨negative, whole, fraction, exponent⟩ := by
  have hwhole := part_ofWhole negative whole
  have hshort : (ofWhole negative whole).numeral? = some ⟨negative, whole, none, none⟩ := by
    unfold numeral?
    obtain hzero | hmore := hwhole
    · rw [hzero]
      simp [ofWhole]
    · rw [hmore]
      simp [ofWhole]
  rcases exponent with _ | ⟨sign, es⟩
  · rcases fraction with _ | ds
    · exact hshort
    · simp [addExponent, addFraction, numeral?, ofWhole]
  · rcases fraction with _ | ds
    · simp [addExponent, addFraction, numeral?, ofWhole]
    · simp [addExponent, addFraction, numeral?, ofWhole]

/-- A number ends in front of a delimiter. -/
theorem next?_of_isDelimiter {n : NumeralScan} {v : Numeral} (hn : n.numeral? = some v) {c : Char}
    (hc : IsDelimiter c) : n.next? c = none := by
  have hdigit : isDigit c = false ∧ c ≠ '.' ∧ c ≠ 'e' ∧ c ≠ 'E' := by
    obtain (rfl | rfl | rfl | rfl) | rfl | rfl | rfl | rfl := hc
    all_goals decide
  obtain ⟨hdigit, hpoint, hsmall, hcapital⟩ := hdigit
  simp only [next?, hdigit, hpoint, hsmall, hcapital]
  revert hn
  cases hpart : n.part <;> simp [numeral?, hpart]

end NumeralScan

namespace Lexing

/-- Digits are added to a part of a number one by one. -/
theorem run?_field {state : List Char → NumeralScan}
    (hstate : ∀ before d, isDigit d = true → (state before).next? d = some (state (d :: before)))
    (tokens : List Token) (before : List Char) {ds : List Char}
    (hds : ∀ d ∈ ds, isDigit d = true) :
    run? ⟨tokens, .numeral (state before)⟩ ds =
      some ⟨tokens, .numeral (state (ds.reverse ++ before))⟩ := by
  induction ds generalizing before with
  | nil => rfl
  | cons d ds ih =>
    have hd : isDigit d = true := hds d List.mem_cons_self
    have hnext : next? ⟨tokens, .numeral (state before)⟩ d =
        some ⟨tokens, .numeral (state (d :: before))⟩ := by
      simp only [next?, hstate before d hd]
    rw [run?, hnext, Option.bind_some, ih _ fun e he => hds e (List.mem_cons_of_mem d he),
      List.reverse_cons, List.append_assoc, List.singleton_append]

/-- A part of a number is made of its first digit and those after it. -/
theorem run?_digits (start : NumeralScan) (state : List Char → NumeralScan) {ds : List Char}
    (hfirst : ∀ d ∈ ds.head?, isDigit d = true → start.next? d = some (state [d]))
    (hstate : ∀ before d, isDigit d = true → (state before).next? d = some (state (d :: before)))
    (tokens : List Token) (h : IsDigits ds) :
    run? ⟨tokens, .numeral start⟩ ds = some ⟨tokens, .numeral (state ds.reverse)⟩ := by
  obtain ⟨hne, hds⟩ := h
  obtain ⟨d, rest, rfl⟩ := List.exists_cons_of_ne_nil hne
  have hnext : next? ⟨tokens, .numeral start⟩ d = some ⟨tokens, .numeral (state [d])⟩ := by
    simp only [next?, hfirst d rfl (hds d List.mem_cons_self)]
  rw [run?, hnext, Option.bind_some,
    run?_field hstate tokens [d] fun e he => hds e (List.mem_cons_of_mem d he), List.reverse_cons]

theorem run?_whole (tokens : List Token) (negative : Bool) {whole : List Char} (h : IsWhole whole) :
    run? ⟨tokens, .numeral { part := .sign, negative := negative }⟩ whole =
      some ⟨tokens, .numeral (.ofWhole negative whole)⟩ := by
  obtain ⟨hdigits, hzero⟩ := h
  by_cases hhead : whole.head? = some '0'
  · obtain rfl := hzero hhead
    rfl
  · obtain ⟨d, rest, rfl⟩ := List.exists_cons_of_ne_nil hdigits.1
    have hd : d ≠ '0' := fun heq => hhead (by rw [heq]; rfl)
    have hread := run?_digits { part := .sign, negative := negative }
      (fun ds => { part := .whole, negative := negative, whole := ds })
      (by
        rintro e he hdigit
        obtain rfl : d = e := by simpa using he
        simp [NumeralScan.next?, hd, hdigit])
      (fun before e he => by simp [NumeralScan.next?, he]) tokens hdigits
    have hwhole : d :: rest ≠ ['0'] := by simp [hd]
    rw [hread, NumeralScan.ofWhole, if_neg hwhole]

theorem run?_fraction (tokens : List Token) {n : NumeralScan}
    (hn : n.part = .zero ∨ n.part = .whole) {fraction : Option (List Char)} {cs : List Char}
    (h : FractionText fraction cs) :
    run? ⟨tokens, .numeral n⟩ cs = some ⟨tokens, .numeral (n.addFraction fraction)⟩ := by
  cases h with
  | absent => rfl
  | @point ds hds =>
    have hpoint : next? ⟨tokens, .numeral n⟩ '.' =
        some ⟨tokens, .numeral { n with part := .point, fraction := some [] }⟩ := by
      have hdigit : isDigit '.' = false := rfl
      obtain hpart | hpart := hn
      · simp [next?, NumeralScan.next?, hpart]
      · simp [next?, NumeralScan.next?, hpart, hdigit]
    have hread := run?_digits { n with part := .point, fraction := some [] }
      (fun ds => { n with part := .fraction, fraction := some ds })
      (fun d _ hd => by simp [NumeralScan.next?, hd])
      (fun before d hd => by simp [NumeralScan.next?, hd]) tokens hds
    rw [run?, hpoint, Option.bind_some, hread]
    rfl

theorem run?_exponent (tokens : List Token) {n : NumeralScan}
    (hn : n.part = .zero ∨ n.part = .whole ∨ n.part = .fraction)
    {exponent : Option (Bool × List Char)} {cs : List Char} (h : ExponentText exponent cs) :
    run? ⟨tokens, .numeral n⟩ cs = some ⟨tokens, .numeral (n.addExponent exponent)⟩ := by
  have hmark {mark : Char} (h : mark = 'e' ∨ mark = 'E') : next? ⟨tokens, .numeral n⟩ mark =
      some ⟨tokens, .numeral { n with part := .mark, exponent := some (false, []) }⟩ := by
    have hdigit : isDigit mark = false ∧ mark ≠ '.' := by
      obtain rfl | rfl := h <;> decide
    obtain hpart | hpart | hpart := hn
    all_goals simp [next?, NumeralScan.next?, hpart, hdigit, h]
  have hread {start : NumeralScan} {ds : List Char} (negative : Bool) (hds : IsDigits ds)
      (hstart : start = { n with part := .mark, exponent := some (negative, []) } ∨
        start = { n with part := .markSign, exponent := some (negative, []) }) :
      run? ⟨tokens, .numeral start⟩ ds =
        some ⟨tokens, .numeral (n.addExponent (some (negative, ds)))⟩ := by
    refine run?_digits start
      (fun ds => { n with part := .exponent, exponent := some (negative, ds) })
      ?_ (fun before d hd => by simp [NumeralScan.next?, hd]) tokens hds
    rintro d - hd
    have hsign : d ≠ '+' ∧ d ≠ '-' := by
      constructor <;> (rintro rfl; exact absurd hd (by decide))
    obtain rfl | rfl := hstart
    · simp [NumeralScan.next?, hd, hsign]
    · simp [NumeralScan.next?, hd]
  cases h with
  | absent => rfl
  | bare hm hds => rw [run?, hmark hm, Option.bind_some, hread false hds (.inl rfl)]
  | plus hm hds =>
    have hplus : next? ⟨tokens, .numeral { n with part := .mark, exponent := some (false, []) }⟩
        '+' = some ⟨tokens, .numeral { n with part := .markSign, exponent := some (false, []) }⟩ :=
      rfl
    rw [run?, hmark hm, Option.bind_some, run?, hplus, Option.bind_some,
      hread false hds (.inr rfl)]
  | minus hm hds =>
    have hminus : next? ⟨tokens, .numeral { n with part := .mark, exponent := some (false, []) }⟩
        '-' = some ⟨tokens, .numeral { n with part := .markSign, exponent := some (true, []) }⟩ :=
      rfl
    rw [run?, hmark hm, Option.bind_some, run?, hminus, Option.bind_some,
      hread true hds (.inr rfl)]

/-- The parts of a number are read one after another. -/
theorem run?_parts (tokens : List Token) (negative : Bool) {whole fs es : List Char}
    {fraction : Option (List Char)} {exponent : Option (Bool × List Char)} (hwhole : IsWhole whole)
    (hfraction : FractionText fraction fs) (hexponent : ExponentText exponent es) :
    run? ⟨tokens, .numeral { part := .sign, negative := negative }⟩ (whole ++ (fs ++ es)) =
      some ⟨tokens, .numeral
        (((NumeralScan.ofWhole negative whole).addFraction fraction).addExponent exponent)⟩ := by
  have hpart := NumeralScan.part_ofWhole negative whole
  have hpart' : ((NumeralScan.ofWhole negative whole).addFraction fraction).part = .zero ∨
      ((NumeralScan.ofWhole negative whole).addFraction fraction).part = .whole ∨
      ((NumeralScan.ofWhole negative whole).addFraction fraction).part = .fraction := by
    cases fraction with
    | none => exact hpart.imp_right .inl
    | some ds => exact .inr (.inr rfl)
  rw [run?_append_of_eq_some (run?_whole tokens negative hwhole),
    run?_append_of_eq_some (run?_fraction tokens hpart hfraction),
    run?_exponent tokens hpart' hexponent]

/-- A digit between two words begins a number. -/
theorem start?_of_isDigit (tokens : List Token) {d : Char} (hd : isDigit d = true) :
    start? tokens d =
      next? ⟨tokens, .numeral { part := .sign, negative := false }⟩ d := by
  have hlt : digitValue d < 10 := digitValue_lt hd
  rw [← digitChar_digitValue hd]
  interval_cases digitValue d <;> rfl

/-- A number that has been read is a word in front of what is delimited. -/
theorem read?_numeral (tokens : List Token) {n : NumeralScan} {v : Numeral}
    (hn : n.numeral? = some v) {rest : List Char} (hrest : Delimited rest) :
    read? ⟨tokens, .numeral n⟩ rest = read? ⟨.number v :: tokens, .between⟩ rest := by
  match rest with
  | [] => simp only [read?, run?, Option.bind_some, finish?, hn, Option.map_some]
  | c :: rest =>
    have hc : IsDelimiter c := hrest c rfl
    have hnext : next? ⟨tokens, .numeral n⟩ c = next? ⟨.number v :: tokens, .between⟩ c := by
      simp only [next?, NumeralScan.next?_of_isDelimiter hn hc, hn, Option.bind_some]
    rw [read?_cons, read?_cons, hnext]

end Lexing

/-- A number spells itself. -/
theorem spells_numeralText {n : Numeral} {cs : List Char} (h : NumeralText n cs) :
    Spells cs [.number n] := by
  intro tokens rest hrest
  have hread (negative : Bool) (whole : List Char) (fraction : Option (List Char))
      (exponent : Option (Bool × List Char)) :=
    Lexing.read?_numeral tokens
      (NumeralScan.numeral?_addExponent negative whole fraction exponent) hrest
  cases h with
  | @positive whole fs es fraction exponent hwhole hfraction hexponent =>
    have hparts := Lexing.run?_parts tokens false hwhole hfraction hexponent
    obtain ⟨d, ds, rfl⟩ := List.exists_cons_of_ne_nil hwhole.1.1
    have hd : isDigit d = true := hwhole.1.2 d List.mem_cons_self
    have hstart : Lexing.run? ⟨tokens, .between⟩ (d :: ds ++ (fs ++ es)) =
        Lexing.run? ⟨tokens, .numeral { part := .sign, negative := false }⟩
          (d :: ds ++ (fs ++ es)) := by
      rw [List.cons_append, Lexing.run?, Lexing.run?,
        show Lexing.next? ⟨tokens, .between⟩ d = _ from Lexing.start?_of_isDigit tokens hd]
    rw [Lexing.read?_append (hstart.trans hparts), hread]
    rfl
  | negative hwhole hfraction hexponent =>
    have hminus : Lexing.next? ⟨tokens, .between⟩ '-' =
        some ⟨tokens, .numeral { part := .sign, negative := true }⟩ := rfl
    rw [List.cons_append, Lexing.read?_cons, hminus, Option.bind_some,
      Lexing.read?_append (Lexing.run?_parts tokens true hwhole hfraction hexponent), hread]
    rfl

/-- The numeral that a whole number is written with. -/
def Numeral.ofInt (i : Int) : Numeral := ⟨decide (i < 0), digits i.natAbs, none, none⟩

theorem isWhole_digits (n : Nat) : IsWhole (digits n) :=
  ⟨⟨digits_ne_nil n, fun _ => isDigit_of_mem_digits⟩, digits_eq_zero_of_head?⟩

/-- A whole number is written with its numeral. -/
theorem numeralText_intText (i : Int) : NumeralText (.ofInt i) (intText i).toList := by
  have hwhole := isWhole_digits i.natAbs
  rw [intText, natText, Numeral.ofInt]
  split_ifs with hi
  · have htext := NumeralText.negative hwhole .absent .absent
    rw [String.toList_ofList]
    rwa [List.append_nil, List.append_nil, ← decide_eq_true hi] at htext
  · have htext := NumeralText.positive hwhole .absent .absent
    rw [String.toList_ofList]
    rwa [List.append_nil, List.append_nil, ← decide_eq_false hi] at htext

end AdminConsole.Json
