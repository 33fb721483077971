import AdminConsole.Json.Tree

/-!
# Trees and their tokens

Every tree is spelled by a sequence of tokens (`Tree.tokens`) and built from it again
(`Tree.ofTokens?_tokens`). This goes by induction on the nesting, an array or an object being read
for one element or member after another while the values before it lie on the stack.
-/

namespace AdminConsole.Json

namespace Tree

mutual

/-- The tokens that spell a tree. -/
def tokens : Tree → List Token
  | .null => [.null]
  | .bool b => [.bool b]
  | .number n => [.number n]
  | .string s => [.string s]
  | .array es => .openArray :: (elementTokens es ++ [.closeArray])
  | .object ms => .openObject :: (memberTokens ms ++ [.closeObject])

/-- The tokens of the elements of an array. -/
def elementTokens : List Tree → List Token
  | [] => []
  | [t] => tokens t
  | t :: ts => tokens t ++ .comma :: elementTokens ts

/-- The tokens of the members of an object. -/
def memberTokens : List (Option String × Tree) → List Token
  | [] => []
  | [(k, t)] => .string k :: .colon :: tokens t
  | (k, t) :: ms => .string k :: .colon :: (tokens t ++ .comma :: memberTokens ms)

end

theorem elementTokens_cons_cons (t u : Tree) (us : List Tree) :
    elementTokens (t :: u :: us) = t.tokens ++ .comma :: elementTokens (u :: us) := rfl

theorem memberTokens_cons_cons (k : Option String) (t : Tree) (m : Option String × Tree)
    (ms : List (Option String × Tree)) :
    memberTokens ((k, t) :: m :: ms) =
      .string k :: .colon :: (t.tokens ++ .comma :: memberTokens (m :: ms)) := rfl

end Tree

namespace Building

/-- An array that has been opened takes its first element as it takes every other value. -/
theorem run?_element {stack : List Frame} {word : Token} (h : word ≠ .closeArray)
    (words : List Token) :
    run? ⟨stack, .element⟩ (word :: words) = run? ⟨.array [] :: stack, .value⟩ (word :: words) := by
  cases word
  case closeArray => exact absurd rfl h
  all_goals rfl

end Building

namespace Tree

theorem exists_tokens_eq_cons (t : Tree) :
    ∃ word words, t.tokens = word :: words ∧ word ≠ .closeArray := by
  cases t <;> exact ⟨_, _, rfl, nofun⟩

theorem exists_elementTokens_eq_cons (t : Tree) (ts : List Tree) :
    ∃ word words, elementTokens (t :: ts) = word :: words ∧ word ≠ .closeArray := by
  obtain ⟨word, words, hwords, hword⟩ := t.exists_tokens_eq_cons
  cases ts with
  | nil => exact ⟨word, words, hwords, hword⟩
  | cons u us => exact ⟨word, words ++ .comma :: elementTokens (u :: us), by
      rw [elementTokens_cons_cons, hwords, List.cons_append], hword⟩

open Building

mutual

/-- A tree is built from its tokens, whatever stands on the stack. -/
theorem run?_tokens (stack : List Frame) (rest : List Token) :
    ∀ t : Tree, run? ⟨stack, .value⟩ (t.tokens ++ rest) = run? (complete t stack) rest
  | .null | .bool _ | .number _ | .string _ => rfl
  | .array [] => rfl
  | .array (t :: ts) => by
    obtain ⟨word, words, hwords, hword⟩ := exists_elementTokens_eq_cons t ts
    have hopen : run? ⟨stack, .value⟩ ((Tree.array (t :: ts)).tokens ++ rest) =
        run? ⟨stack, .element⟩ (elementTokens (t :: ts) ++ .closeArray :: rest) := by
      rw [tokens, List.cons_append, List.append_assoc]
      rfl
    have hfirst : run? ⟨stack, .element⟩ (elementTokens (t :: ts) ++ .closeArray :: rest) =
        run? ⟨.array [] :: stack, .value⟩ (elementTokens (t :: ts) ++ .closeArray :: rest) := by
      rw [hwords]
      exact run?_element hword _
    rw [hopen, hfirst, run?_elementTokens stack rest [] (t :: ts) (List.cons_ne_nil t ts)]
    rfl
  | .object [] => rfl
  | .object (m :: ms) => by
    have hopen : run? ⟨stack, .value⟩ ((Tree.object (m :: ms)).tokens ++ rest) =
        run? ⟨stack, .key [] true⟩ (memberTokens (m :: ms) ++ .closeObject :: rest) := by
      rw [tokens, List.cons_append, List.append_assoc]
      rfl
    rw [hopen, run?_memberTokens stack rest [] true (m :: ms) (List.cons_ne_nil m ms)]
    rfl

/-- The elements of an array follow those before them. -/
theorem run?_elementTokens (stack : List Frame) (rest : List Token) (before : List Tree) :
    ∀ ts : List Tree, ts ≠ [] →
      run? ⟨.array before :: stack, .value⟩ (elementTokens ts ++ .closeArray :: rest) =
        run? (complete (.array (before.reverse ++ ts)) stack) rest
  | [t], _ => by
    rw [elementTokens, run?_tokens (.array before :: stack) (.closeArray :: rest) t,
      ← List.reverse_cons]
    rfl
  | t :: u :: us, _ => by
    rw [elementTokens_cons_cons, List.append_assoc, List.cons_append,
      run?_tokens (.array before :: stack) _ t]
    have hcomma : run? (complete t (.array before :: stack))
        (.comma :: (elementTokens (u :: us) ++ .closeArray :: rest)) =
      run? ⟨.array (t :: before) :: stack, .value⟩
        (elementTokens (u :: us) ++ .closeArray :: rest) := rfl
    rw [hcomma, run?_elementTokens stack rest (t :: before) (u :: us) (List.cons_ne_nil u us),
      List.reverse_cons, List.append_assoc, List.singleton_append]

/-- The members of an object follow those before them. -/
theorem run?_memberTokens (stack : List Frame) (rest : List Token)
    (before : List (Option String × Tree)) (first : Bool) :
    ∀ ms : List (Option String × Tree), ms ≠ [] →
      run? ⟨stack, .key before first⟩ (memberTokens ms ++ .closeObject :: rest) =
        run? (complete (.object (before.reverse ++ ms)) stack) rest
  | [(k, t)], _ => by
    have hkey : run? ⟨stack, .key before first⟩ (memberTokens [(k, t)] ++ .closeObject :: rest) =
        run? ⟨.object before k :: stack, .value⟩ (t.tokens ++ .closeObject :: rest) := by
      rw [memberTokens]
      rfl
    rw [hkey, run?_tokens (.object before k :: stack) (.closeObject :: rest) t,
      ← List.reverse_cons]
    rfl
  | (k, t) :: m :: ms, _ => by
    have hkey : run? ⟨stack, .key before first⟩
          (memberTokens ((k, t) :: m :: ms) ++ .closeObject :: rest) =
        run? ⟨.object before k :: stack, .value⟩
          (t.tokens ++ .comma :: (memberTokens (m :: ms) ++ .closeObject :: rest)) := by
      rw [memberTokens_cons_cons, List.cons_append, List.cons_append, List.append_assoc,
        List.cons_append]
      rfl
    rw [hkey, run?_tokens (.object before k :: stack) _ t]
    have hcomma : run? (complete t (.object before k :: stack))
        (.comma :: (memberTokens (m :: ms) ++ .closeObject :: rest)) =
      run? ⟨stack, .key ((k, t) :: before) false⟩
        (memberTokens (m :: ms) ++ .closeObject :: rest) := rfl
    rw [hcomma, run?_memberTokens stack rest ((k, t) :: before) false (m :: ms)
      (List.cons_ne_nil m ms), List.reverse_cons, List.append_assoc, List.singleton_append]

end

/-- Every tree is spelled by its tokens. -/
theorem ofTokens?_tokens (t : Tree) : ofTokens? t.tokens = some t := by
  have hrun : run? {} t.tokens = some (complete t []) := by
    have h := run?_tokens [] [] t
    rwa [List.append_nil] at h
  rw [ofTokens?, hrun]
  rfl

end Tree

end AdminConsole.Json
