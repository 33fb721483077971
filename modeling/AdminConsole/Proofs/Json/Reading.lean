import AdminConsole.Proofs.Json.Tokens
import AdminConsole.Proofs.Json.Words

/-!
# Every JSON text is read

Whatever the grammar takes for the text of a value is read as this value, however deep it is nested
and wherever white space stands (`ValueText.parse?_eq`). The reader knows nothing of values while it
looks for words, so this goes by way of the tokens: the text of a value spells its tokens
(`ValueText.spells`), and from these the value is built.
-/

namespace AdminConsole.Json

theorem ElementsText.exists_eq_cons {ts : List Tree} {cs : List Char} (h : ElementsText ts cs) :
    ∃ t us, ts = t :: us := by
  cases h with
  | one _ => exact ⟨_, _, rfl⟩
  | cons _ _ => exact ⟨_, _, rfl⟩

theorem MembersText.exists_eq_cons {ms : List (Option String × Tree)} {cs : List Char}
    (h : MembersText ms cs) : ∃ m rest, ms = m :: rest := by
  cases h with
  | one _ _ => exact ⟨_, _, rfl⟩
  | cons _ _ _ => exact ⟨_, _, rfl⟩

mutual

/-- The text of a value spells its tokens. -/
theorem ValueText.spells : ∀ {t : Tree} {cs : List Char}, ValueText t cs → Spells cs t.tokens
  | _, _, .null => spells_null
  | _, _, .true => spells_true
  | _, _, .false => spells_false
  | _, _, .number h => spells_numeralText h
  | _, _, .string h => spells_stringText h
  | _, _, .emptyArray h => (spells_closeArray.spaces h).mark fun _ => rfl
  | _, _, .array h => by
    have hbody := h.spells.append spells_closeArray fun _ _ =>
      delimited_cons _ (by simp [IsDelimiter])
    exact hbody.mark fun _ => rfl
  | _, _, .emptyObject h => (spells_closeObject.spaces h).mark fun _ => rfl
  | _, _, .object h => by
    have hbody := h.spells.append spells_closeObject fun _ _ =>
      delimited_cons _ (by simp [IsDelimiter])
    exact hbody.mark fun _ => rfl
  | _, _, .spaceBefore hc h => h.spells.space hc
  | _, _, .spaceAfter hc h => by
    have hafter := h.spells.append (Spells.nil.space hc) fun _ _ => delimited_cons _ (.inl hc)
    rwa [List.append_nil] at hafter

/-- The text of the elements of an array spells their tokens, with commas between them. -/
theorem ElementsText.spells : ∀ {ts : List Tree} {cs : List Char}, ElementsText ts cs →
    Spells cs (Tree.elementTokens ts)
  | _, _, .one h => h.spells
  | _, _, .cons h hs => by
    have hrest := hs.spells.comma
    obtain ⟨u, us, rfl⟩ := hs.exists_eq_cons
    exact h.spells.append hrest fun _ _ => delimited_comma _

/-- The text of the members of an object spells their tokens, with commas between them. -/
theorem MembersText.spells : ∀ {ms : List (Option String × Tree)} {cs : List Char},
    MembersText ms cs → Spells cs (Tree.memberTokens ms)
  | _, _, .one hk h => by
    exact hk.spells.append h.spells.colon fun _ _ => delimited_cons _ (by simp [IsDelimiter])
  | _, _, .cons hk h hs => by
    have hrest := hs.spells.comma
    obtain ⟨m, ms, rfl⟩ := hs.exists_eq_cons
    have hmember := h.spells.append hrest fun _ _ => delimited_comma _
    exact hk.spells.append hmember.colon fun _ _ => delimited_cons _ (by simp [IsDelimiter])

end

/-- A text that spells the tokens of a tree is read as the tree. -/
theorem Spells.parse?_eq {cs : List Char} {t : Tree} (h : Spells cs t.tokens) :
    Tree.parse? (String.ofList cs) = some t := by
  have hscan : Token.scan? cs = some t.tokens := by
    have hread := h [] [] delimited_nil
    rwa [List.append_nil, List.append_nil, Lexing.read?_nil, List.reverse_reverse] at hread
  rw [Tree.parse?, String.toList_ofList, hscan, Option.bind_some, Tree.ofTokens?_tokens]

/-- **Every JSON text is read** as the value that it is the text of. -/
theorem ValueText.parse?_eq {t : Tree} {text : String} (h : ValueText t text.toList) :
    Tree.parse? text = some t := by
  have hread := h.spells.parse?_eq
  rwa [String.ofList_toList] at hread

end AdminConsole.Json
