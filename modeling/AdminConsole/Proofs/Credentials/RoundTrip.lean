import AdminConsole.Credentials.Format
import AdminConsole.Proofs.Json.Members
import AdminConsole.Proofs.Time.RoundTrip

/-!
# Credentials that are written and read back

Credentials, and the pair of tokens in them, are read from every object whose members hold them
(`StoredCredentials.HeldBy`, `TokenPair.HeldBy`): a field that is there is as given, and one that is
not has its default. The defaults are written out there, so that they do not depend on how a reader
comes by them.

Whatever their tokens are, credentials are read back from their text exactly, if the time of their
last write is a moment that exists (`StoredCredentials.parse?_fileText`). What is read are trees, so
this is shown in two steps: the trees of the JSON form are known (`StoredCredentials.tree?_toJson`),
and the members of such a tree hold the credentials (`StoredCredentials.ofTree?_tree`).
-/

namespace AdminConsole

open AdminConsole.Json AdminConsole.Time

namespace TokenPair

/-! ### Pairs of tokens -/

/-- The members of an object hold this pair. -/
structure HeldBy (p : TokenPair) (ms : List (Option String × Tree)) : Prop where
  legible : Legible ["access", "refresh"] ms
  access : Given ms "access" (fun t v => t = textTree v) none p.access
  refresh : Given ms "refresh" (fun t v => t = textTree v) none p.refresh

theorem HeldBy.ofTree?_eq {p : TokenPair} {ms : List (Option String × Tree)} (h : p.HeldBy ms) :
    ofTree? (.object ms) = some p := by
  obtain ⟨parts, hfields, hparts⟩ := Tree.exists_fields?_object h.legible
  simp only [ofTree?, hfields, Option.bind_eq_bind, Option.bind_some, Fields.optional_object]
  rw [h.access.orElse_of_eq (hparts "access" (by simp)) (Tree.asOption?_asString? _),
    Option.bind_some,
    h.refresh.orElse_of_eq (hparts "refresh" (by simp)) (Tree.asOption?_asString? _)]
  rfl

/-- The tree of a pair. -/
def tree (p : TokenPair) : Tree :=
  .object [(some "access", textTree p.access), (some "refresh", textTree p.refresh)]

theorem tree?_toJson (p : TokenPair) : p.toJson.tree? = some p.tree := by
  simp [toJson, tree, tree?, memberTrees?]

theorem exists_heldBy_tree (p : TokenPair) :
    ∃ members, p.tree = .object members ∧ p.HeldBy members :=
  ⟨_, rfl,
    { legible := .of_keys rfl (by decide)
      access := .member (by simp) rfl
      refresh := .member (by simp) rfl }⟩

end TokenPair

/-! ### Credentials -/

/-- The trees of a moment that may be missing: null, or a text that can be read as the moment. -/
inductive Time.Moment.IsTree : Tree → Option Moment → Prop
  | null : IsTree .null none
  | text {s : String} {m : Moment} (h : Moment.parse? s = some m) :
      IsTree (.string (some s)) (some m)

theorem Time.Moment.IsTree.asOption?_eq {t : Tree} {saved : Option Moment}
    (h : Moment.IsTree t saved) : t.asOption? Moment.ofTree? = some saved := by
  cases h with
  | null => rfl
  | text hread => simp [Tree.asOption?, Moment.ofTree?, Tree.asString?, hread]

namespace StoredCredentials

/-- The members of an object hold these credentials. -/
structure HeldBy (c : StoredCredentials) (ms : List (Option String × Tree)) : Prop where
  legible : Legible ["session", "tunnel_token", "tunnel_server_token", "saved_at"] ms
  session : Given ms "session" (fun t p => ∃ members, t = .object members ∧ p.HeldBy members)
    ⟨none, none⟩ c.session
  tunnelToken : Given ms "tunnel_token" (fun t v => t = textTree v) none c.tunnelToken
  tunnelServerToken :
    Given ms "tunnel_server_token" (fun t v => t = textTree v) none c.tunnelServerToken
  savedAt : Given ms "saved_at" Moment.IsTree none c.savedAt

theorem HeldBy.ofTree?_eq {c : StoredCredentials} {ms : List (Option String × Tree)}
    (h : c.HeldBy ms) : ofTree? (.object ms) = some c := by
  obtain ⟨parts, hfields, hparts⟩ := Tree.exists_fields?_object h.legible
  have hsession (t : Tree) (ht : ∃ members, t = .object members ∧ c.session.HeldBy members) :
      TokenPair.ofTree? t = some c.session := by
    obtain ⟨members, rfl, hp⟩ := ht
    exact hp.ofTree?_eq
  simp only [ofTree?, hfields, Option.bind_eq_bind, Option.bind_some]
  rw [h.session.orElse_eq (hparts "session" (by simp)) hsession, Option.bind_some,
    h.tunnelToken.orElse_of_eq (hparts "tunnel_token" (by simp)) (Tree.asOption?_asString? _),
    Option.bind_some,
    h.tunnelServerToken.orElse_of_eq (hparts "tunnel_server_token" (by simp))
      (Tree.asOption?_asString? _),
    Option.bind_some,
    h.savedAt.orElse_eq (hparts "saved_at" (by simp)) fun _ ht => ht.asOption?_eq]
  rfl

/-- The tree of credentials. -/
def tree (c : StoredCredentials) : Tree :=
  .object
    [ (some "session", c.session.tree),
      (some "tunnel_token", textTree c.tunnelToken),
      (some "tunnel_server_token", textTree c.tunnelServerToken),
      (some "saved_at", textTree (c.savedAt.map Moment.render)) ]

theorem tree?_toJson (c : StoredCredentials) : c.toJson.tree? = some c.tree := by
  simp [toJson, tree, tree?, memberTrees?, TokenPair.tree?_toJson]

theorem ofTree?_tree {c : StoredCredentials} (h : ∀ m ∈ c.savedAt, m.IsValid) :
    ofTree? c.tree = some c := by
  have hmoment : Moment.IsTree (textTree (c.savedAt.map Moment.render)) c.savedAt := by
    cases hsaved : c.savedAt with
    | none => exact .null
    | some m => exact .text (Moment.parse?_render (h m hsaved))
  exact HeldBy.ofTree?_eq
    { legible := .of_keys rfl (by decide)
      session := .member (by simp) c.session.exists_heldBy_tree
      tunnelToken := .member (by simp) rfl
      tunnelServerToken := .member (by simp) rfl
      savedAt := .member (by simp) hmoment }

/-- **Credentials are read back from their text.** -/
theorem parse?_fileText {c : StoredCredentials} (h : ∀ m ∈ c.savedAt, m.IsValid) :
    parse? c.fileText = some c := by
  rw [parse?, decode?, fileText, Tree.parse?_pretty c.tree?_toJson, Option.bind_some,
    ofTree?_tree h]

end StoredCredentials

end AdminConsole
