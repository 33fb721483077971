import AdminConsole.Error

/-!
# What a server says in a body

The message of a body is its member `msg`, where there is one that says something
(`ApiError.Tells`), and the body itself where there is none. Of a body of more than 500 bytes only
the beginning is shown. It ends where a search finds the first place between two characters, going
backwards from byte 500. That the search ends soon is due to the character behind that place: it
reaches over byte 500 (`exists_next_posLE`), and no character has more than four bytes. The same
character is why nothing longer could be shown (`IsLongestStart.of_next`).
-/

namespace AdminConsole

/-! ### Beginnings of a text -/

namespace Text

/-- The longest beginning of a text that so many bytes have room for. -/
structure IsLongestStart (room : Nat) (text start : String) : Prop where
  begins : ∃ rest, text = start ++ rest
  fits : start.utf8ByteSize ≤ room
  longest : ∀ other rest, text = other ++ rest → other.utf8ByteSize ≤ room →
    other.utf8ByteSize ≤ start.utf8ByteSize

/-- Behind every beginning of a text is a place between two characters. -/
theorem exists_splits {text start rest : String} (h : text = start ++ rest) :
    ∃ p : text.Pos, p.Splits start rest :=
  ⟨text.pos start.rawEndPos (String.Pos.Raw.isValid_iff_exists_append.mpr ⟨start, rest, h, rfl⟩),
    h, rfl⟩

namespace IsLongestStart

variable {room : Nat} {text start : String}

theorem unique {other : String} (h : IsLongestStart room text start)
    (hother : IsLongestStart room text other) : other = start := by
  obtain ⟨rest, hrest⟩ := h.begins
  obtain ⟨rest', hrest'⟩ := hother.begins
  obtain ⟨p, hp⟩ := exists_splits hrest
  have hsize : other.utf8ByteSize = start.utf8ByteSize :=
    Nat.le_antisymm (h.longest other rest' hrest' hother.fits)
      (hother.longest start rest hrest h.fits)
  have hsplits : p.Splits other rest' :=
    ⟨hrest', hp.offset_eq_rawEndPos.trans (String.Pos.Raw.ext hsize.symm)⟩
  exact hsplits.eq_left hp

/-- A beginning is the longest one if there is no room for the character behind it. -/
theorem of_next {rest : String} {c : Char} (htext : text = start ++ (String.singleton c ++ rest))
    (hfits : start.utf8ByteSize ≤ room) (hnext : room < start.utf8ByteSize + c.utf8Size) :
    IsLongestStart room text start where
  begins := ⟨_, htext⟩
  fits := hfits
  longest other rest' hother hroom := by
    obtain ⟨p, hp⟩ := exists_splits htext
    obtain ⟨q, hq⟩ := exists_splits hother
    refine Nat.le_of_not_lt fun hlonger => ?_
    -- the first place behind `start` is the one behind the next character
    have hlt : p < q := by
      rw [String.Pos.lt_iff, hp.offset_eq_rawEndPos, hq.offset_eq_rawEndPos]
      exact hlonger
    have hle : p.next hp.ne_endPos_of_singleton ≤ q := String.Pos.next_le_iff_lt.mpr hlt
    rw [String.Pos.le_iff, hp.next.offset_eq_rawEndPos, hq.offset_eq_rawEndPos] at hle
    have hsize : (start ++ String.singleton c).utf8ByteSize ≤ other.utf8ByteSize := hle
    rw [String.utf8ByteSize_append, String.utf8ByteSize_singleton] at hsize
    omega

end IsLongestStart

/-- The search backwards from a byte inside a text ends in front of a character that reaches over
this byte. -/
theorem exists_next_posLE {room : Nat} {text : String} (h : room < text.utf8ByteSize) :
    ∃ start c rest, (text.posLE ⟨room⟩).Splits start (String.singleton c ++ rest) ∧
      start.utf8ByteSize ≤ room ∧ room < start.utf8ByteSize + c.utf8Size := by
  have hfits : (text.posLE ⟨room⟩).offset ≤ ⟨room⟩ := String.offset_posLE_le
  have hne : text.posLE ⟨room⟩ ≠ text.endPos := by
    intro hend
    rw [hend, String.offset_endPos] at hfits
    exact absurd hfits (Nat.not_le_of_lt h)
  have hsplits := (text.posLE ⟨room⟩).splits_next_right hne
  have hover : (⟨room⟩ : String.Pos.Raw) < ((text.posLE ⟨room⟩).next hne).offset :=
    String.posLE_lt_iff.mp String.Pos.lt_next
  rw [hsplits.offset_eq_rawEndPos] at hfits
  rw [hsplits.next.offset_eq_rawEndPos] at hover
  refine ⟨_, _, _, hsplits, hfits, ?_⟩
  rw [← String.utf8ByteSize_singleton, ← String.utf8ByteSize_append]
  exact hover

end Text

/-! ### Messages -/

theorem Json.member?_eq_some_iff {key : String} {v w : Json} :
    v.member? key = some w ↔ ∃ members, v = .object members ∧ members.lookup key = some w := by
  cases v <;> simp [Json.member?]

theorem Json.string?_eq_some_iff {v : Json} {s : String} : v.string? = some s ↔ v = .string s := by
  cases v <;> simp [Json.string?]

namespace ApiError

open AdminConsole.Text

variable {body : String}

/-- What a body tells: it is a JSON object, and its member `msg` is a text that is not empty. -/
def Tells (body msg : String) : Prop :=
  ∃ members, Json.parse? body = some (.object members) ∧
    members.lookup "msg" = some (.string msg) ∧ msg ≠ ""

theorem tells_iff {msg : String} :
    Tells body msg ↔
      ((Json.parse? body).bind fun v => (v.member? "msg").bind Json.string?) = some msg ∧
        msg ≠ "" := by
  simp only [Option.bind_eq_some_iff, Json.member?_eq_some_iff, Json.string?_eq_some_iff]
  constructor
  · rintro ⟨members, hparse, hmember, hne⟩
    exact ⟨⟨_, hparse, _, ⟨members, rfl, hmember⟩, rfl⟩, hne⟩
  · rintro ⟨⟨_, hparse, _, ⟨members, rfl, hmember⟩, rfl⟩, hne⟩
    exact ⟨members, hparse, hmember, hne⟩

theorem not_tells_of_parse?_eq_none (h : Json.parse? body = none) (msg : String) :
    ¬ Tells body msg := by
  rintro ⟨members, hparse, -⟩
  rw [h] at hparse
  cases hparse

theorem saidIn_of_tells {msg : String} (h : Tells body msg) : saidIn body = msg := by
  obtain ⟨hsaid, hne⟩ := tells_iff.mp h
  rw [saidIn, hsaid]
  exact if_neg hne

theorem saidIn_of_not_tells (h : ∀ msg, ¬ Tells body msg) : saidIn body = excerpt body := by
  rw [saidIn]
  split <;> rename_i hsaid
  · split <;> rename_i hne
    · rfl
    · exact absurd (tells_iff.mpr ⟨hsaid, hne⟩) (h _)
  · rfl

theorem excerpt_of_short (h : body.utf8ByteSize ≤ 500) : excerpt body = body :=
  if_pos h

theorem excerpt_of_splits (h : 500 < body.utf8ByteSize) {shown hidden : String}
    (hsplits : (body.posLE ⟨500⟩).Splits shown hidden) :
    excerpt body =
      shown ++ "... (truncated, " ++ natText body.utf8ByteSize ++ " total bytes)" := by
  have hcut : (body.sliceTo (body.posLE ⟨shownBytes⟩)).copy = shown :=
    (body.posLE ⟨500⟩).splits.eq_left hsplits
  have hlong : ¬ body.utf8ByteSize ≤ shownBytes := Nat.not_le_of_lt h
  rw [excerpt, if_neg hlong, hcut]

/-- **The message of a body.** What a body tells is its message. A body that tells nothing is its
own message, as long as it has no more than 500 bytes. Of a longer one the message is the longest
beginning that 500 bytes have room for, with a note of how long the body is: the search for the
place to cut, backwards from byte 500, ends between two characters and never passes below byte 497.
-/
theorem message_in_body (body : String) :
    (∀ msg, Tells body msg → saidIn body = msg) ∧
      ((∀ msg, ¬ Tells body msg) →
        (body.utf8ByteSize ≤ 500 → saidIn body = body) ∧
        (500 < body.utf8ByteSize →
          497 ≤ (body.posLE ⟨500⟩).offset.byteIdx ∧
          ∃ shown hidden, (body.posLE ⟨500⟩).Splits shown hidden ∧
            IsLongestStart 500 body shown ∧ 497 ≤ shown.utf8ByteSize ∧
            saidIn body = shown ++ "... (truncated, " ++ natText body.utf8ByteSize ++
              " total bytes)")) := by
  refine ⟨fun msg h => saidIn_of_tells h, fun hsilent => ⟨fun hshort => ?_, fun hlong => ?_⟩⟩
  · exact (saidIn_of_not_tells hsilent).trans (excerpt_of_short hshort)
  · obtain ⟨shown, c, rest, hsplits, hfits, hover⟩ := exists_next_posLE hlong
    have hfour : c.utf8Size ≤ 4 := c.utf8Size_le_four
    have hnear : 497 ≤ shown.utf8ByteSize := by omega
    have hoffset : (body.posLE ⟨500⟩).offset.byteIdx = shown.utf8ByteSize :=
      congrArg String.Pos.Raw.byteIdx hsplits.offset_eq_rawEndPos
    exact ⟨hoffset ▸ hnear, shown, _, hsplits, .of_next hsplits.eq_append hfits hover, hnear,
      (saidIn_of_not_tells hsilent).trans (excerpt_of_splits hlong hsplits)⟩

/-- A body of one byte and so many characters of four bytes. -/
def faces : Nat → String
  | 0 => "a"
  | n + 1 => faces n ++ String.singleton '😀'

theorem utf8ByteSize_faces (n : Nat) : (faces n).utf8ByteSize = 1 + 4 * n := by
  induction n with
  | zero => rfl
  | succ n ih =>
    have hface : '😀'.utf8Size = 4 := rfl
    rw [faces, String.utf8ByteSize_append, String.utf8ByteSize_singleton, ih, hface]
    omega

theorem exists_toList_faces (n : Nat) : ∃ rest, (faces n).toList = 'a' :: rest := by
  induction n with
  | zero => exact ⟨[], rfl⟩
  | succ n ih =>
    obtain ⟨rest, hrest⟩ := ih
    exact ⟨rest ++ ['😀'], by rw [faces, String.toList_append, hrest, String.toList_singleton]; rfl⟩

theorem not_tells_faces (n : Nat) : ∀ msg, ¬ Tells (faces n) msg := by
  obtain ⟨rest, hrest⟩ := exists_toList_faces n
  refine not_tells_of_parse?_eq_none ?_
  rw [Json.parse?, Json.Tree.parse?, hrest]
  rfl

/-- Only the last of these characters reaches over byte 500. -/
theorem isLongestStart_faces : IsLongestStart 500 (faces 125) (faces 124) := by
  have hfaces : faces 125 = faces 124 ++ (String.singleton '😀' ++ "") := by
    rw [String.append_empty, faces]
  refine .of_next hfaces ?_ ?_
  · rw [utf8ByteSize_faces]
    decide
  · rw [utf8ByteSize_faces]
    decide

/-- A body with a message. -/
def expiredBody : String := "\x7b\"error\":true,\"msg\":\"Token is expired\"\x7d"

/-- One body tells a message, one is its own message, and one is cut at byte 497. -/
theorem message_in_body_cut :
    (Tells expiredBody "Token is expired" ∧ saidIn expiredBody = "Token is expired") ∧
    ((∀ msg, ¬ Tells "no rule" msg) ∧ "no rule".utf8ByteSize ≤ 500 ∧
      saidIn "no rule" = "no rule") ∧
    (∀ msg, ¬ Tells (faces 125) msg) ∧ 500 < (faces 125).utf8ByteSize ∧
      (faces 124).utf8ByteSize = 497 ∧
      saidIn (faces 125) = faces 124 ++ "... (truncated, 501 total bytes)" := by
  have htells : Tells expiredBody "Token is expired" :=
    tells_iff.mpr ⟨by decide +kernel, by decide⟩
  have hshort : ∀ msg, ¬ Tells "no rule" msg := not_tells_of_parse?_eq_none rfl
  have hfits : "no rule".utf8ByteSize ≤ 500 := by decide
  have hlong : 500 < (faces 125).utf8ByteSize := by
    rw [utf8ByteSize_faces]
    decide
  refine ⟨⟨htells, (message_in_body _).1 _ htells⟩,
    ⟨hshort, hfits, ((message_in_body _).2 hshort).1 hfits⟩,
    not_tells_faces 125, hlong, utf8ByteSize_faces 124, ?_⟩
  obtain ⟨-, shown, hidden, -, hlongest, -, hsaid⟩ :=
    ((message_in_body _).2 (not_tells_faces 125)).2 hlong
  have hshown : shown = faces 124 := isLongestStart_faces.unique hlongest
  have hsize : natText (faces 125).utf8ByteSize = "501" := by
    rw [utf8ByteSize_faces]
    decide +kernel
  rw [hsaid, hshown, hsize, String.append_assoc, String.append_assoc]
  rfl

end ApiError

end AdminConsole
