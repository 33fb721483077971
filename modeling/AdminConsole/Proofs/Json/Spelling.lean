import AdminConsole.Json.Token
import AdminConsole.Proofs.Json.Grammar

/-!
# How words are spelled

Characters **spell** a sequence of tokens when the reader, in front of them and between two words,
goes on as if it had just read these tokens, whatever it had read before (`Spells`). The one thing
that matters for this is what follows, since a number ends only where something follows that cannot
be part of it; so what follows has to be delimited, as everything is that can stand behind a value.

Spelling composes: the spelling of a text is put together from the spellings of its pieces
(`Spells.append`, `Spells.mark`, `Spells.spaces`).
-/

namespace AdminConsole.Json

open AdminConsole.Text

/-! ### Reading to the end -/

namespace Lexing

/-- The tokens of a text of which the beginning has been read. -/
def read? (l : Lexing) (cs : List Char) : Option (List Token) := (l.run? cs).bind finish?

theorem read?_cons (l : Lexing) (c : Char) (cs : List Char) :
    l.read? (c :: cs) = (l.next? c).bind fun l => l.read? cs := by
  simp only [read?, run?, Option.bind_assoc]

theorem read?_append {l l' : Lexing} {cs : List Char} (h : l.run? cs = some l')
    (rest : List Char) : l.read? (cs ++ rest) = l'.read? rest := by
  simp only [read?, run?_append, h, Option.bind_some]

/-- Nothing is left to be read when a text ends between two words. -/
theorem read?_nil (tokens : List Token) :
    read? ⟨tokens, .between⟩ [] = some tokens.reverse := rfl

theorem run?_append_of_eq_some {l l' : Lexing} {cs : List Char} (h : l.run? cs = some l')
    (rest : List Char) : l.run? (cs ++ rest) = l'.run? rest := by
  rw [run?_append, h, Option.bind_some]

end Lexing

/-! ### Spelling -/

/-- A character that ends a number. -/
def IsDelimiter (c : Char) : Prop :=
  IsSpace c ∨ c = ',' ∨ c = ':' ∨ c = ']' ∨ c = '}'

/-- A text in front of which a number ends: the empty one, or one that begins with a delimiter. -/
def Delimited (cs : List Char) : Prop := ∀ c ∈ cs.head?, IsDelimiter c

/-- Characters **spell** tokens if, in front of what is delimited, the reader takes them for exactly
these tokens. -/
def Spells (cs : List Char) (words : List Token) : Prop :=
  ∀ (tokens : List Token) (rest : List Char), Delimited rest →
    Lexing.read? ⟨tokens, .between⟩ (cs ++ rest) =
      Lexing.read? ⟨words.reverse ++ tokens, .between⟩ rest

theorem delimited_nil : Delimited [] := nofun

theorem delimited_cons {c : Char} (cs : List Char) (h : IsDelimiter c) : Delimited (c :: cs) := by
  rintro d hd
  obtain rfl : c = d := by simpa using hd
  exact h

theorem delimited_comma (cs : List Char) : Delimited (',' :: cs) :=
  delimited_cons cs (by simp [IsDelimiter])

namespace Spells

variable {cs ds : List Char} {words words' : List Token}

theorem nil : Spells [] [] := fun _ _ _ => rfl

/-- Characters that leave the reader between two words spell what it has read in them. -/
theorem of_run? (h : ∀ tokens, Lexing.run? ⟨tokens, .between⟩ cs =
    some ⟨words.reverse ++ tokens, .between⟩) : Spells cs words :=
  fun tokens rest _ => Lexing.read?_append (h tokens) rest

/-- Two pieces spell what the first spells and then what the second spells, if the second is
delimited. -/
theorem append (h : Spells cs words) (h' : Spells ds words')
    (hdelimited : ∀ rest, Delimited rest → Delimited (ds ++ rest)) :
    Spells (cs ++ ds) (words ++ words') := by
  intro tokens rest hrest
  rw [List.append_assoc, h tokens _ (hdelimited rest hrest), h' _ rest hrest, List.reverse_append,
    List.append_assoc]

/-- A punctuation mark is a word of its own. -/
theorem mark {c : Char} {word : Token}
    (hc : ∀ tokens, Lexing.start? tokens c = some ⟨word :: tokens, .between⟩)
    (h : Spells cs words) : Spells (c :: cs) (word :: words) := by
  intro tokens rest hrest
  have hnext : Lexing.next? ⟨tokens, .between⟩ c = some ⟨word :: tokens, .between⟩ := hc tokens
  rw [List.cons_append, Lexing.read?_cons, hnext, Option.bind_some, h _ rest hrest,
    List.reverse_cons, List.append_assoc, List.singleton_append]

theorem comma (h : Spells cs words) : Spells (',' :: cs) (.comma :: words) := h.mark fun _ => rfl

theorem colon (h : Spells cs words) : Spells (':' :: cs) (.colon :: words) := h.mark fun _ => rfl

/-- White space spells nothing. -/
theorem space {c : Char} (hc : IsSpace c) (h : Spells cs words) : Spells (c :: cs) words := by
  intro tokens rest hrest
  have hnext : Lexing.next? ⟨tokens, .between⟩ c = some ⟨tokens, .between⟩ := if_pos hc
  rw [List.cons_append, Lexing.read?_cons, hnext]
  exact h tokens rest hrest

/-- So does any amount of it. -/
theorem spaces {blank : List Char} (hblank : ∀ c ∈ blank, IsSpace c) (h : Spells cs words) :
    Spells (blank ++ cs) words := by
  induction blank with
  | nil => exact h
  | cons c blank ih =>
    have hc : IsSpace c := hblank c List.mem_cons_self
    exact (ih fun d hd => hblank d (List.mem_cons_of_mem c hd)).space hc

end Spells

theorem spells_closeArray : Spells [']'] [.closeArray] := .of_run? fun _ => rfl

theorem spells_closeObject : Spells ['}'] [.closeObject] := .of_run? fun _ => rfl

theorem spells_null : Spells ['n', 'u', 'l', 'l'] [.null] := .of_run? fun _ => rfl

theorem spells_true : Spells ['t', 'r', 'u', 'e'] [.bool true] := .of_run? fun _ => rfl

theorem spells_false : Spells ['f', 'a', 'l', 's', 'e'] [.bool false] := .of_run? fun _ => rfl

end AdminConsole.Json
