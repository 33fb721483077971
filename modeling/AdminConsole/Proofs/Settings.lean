import AdminConsole.Proofs.Json.Members
import AdminConsole.Settings

/-!
# Settings that are written and read back

Settings are read from every object whose members hold them (`Settings.HeldBy`). Whatever they are,
they are read back from both of their texts (`Settings.decode?_toJson`), so a file to which they
were written is loaded as these settings (`Settings.load_fileText`).
-/

namespace AdminConsole

open AdminConsole.Json

/-- The trees of a kind of backend: its name, or an object with this name as its only key. -/
inductive BackendKind.IsTree : Tree → BackendKind → Prop
  | name (k : BackendKind) : IsTree (.string (some k.name)) k
  | member (k : BackendKind) : IsTree (.object [(some k.name, .null)]) k

theorem BackendKind.IsTree.ofTree?_eq {t : Tree} {k : BackendKind} (h : IsTree t k) :
    ofTree? t = some k := by
  have hname : ofName? k.name = some k := by
    cases k <;> rfl
  cases h with
  | name => exact hname
  | member => exact hname

namespace Settings

/-- The members of an object hold these settings. -/
structure HeldBy (s : Settings) (ms : List (Option String × Tree)) : Prop where
  legible : Legible ["base_url", "request_timeout_secs", "credential_backend", "last_email"] ms
  baseUrl : Given ms "base_url" (fun t v => t = .string (some v)) "http://127.0.0.1:6001" s.baseUrl
  requestTimeoutSecs : Given ms "request_timeout_secs"
    (fun t (n : UInt64) => t = .number (.ofInt n.toNat)) 30 s.requestTimeoutSecs
  credentialBackend : Given ms "credential_backend" BackendKind.IsTree .file s.credentialBackend
  lastEmail : Given ms "last_email" (fun t v => t = textTree v) none s.lastEmail

theorem HeldBy.ofTree?_eq {s : Settings} {ms : List (Option String × Tree)} (h : s.HeldBy ms) :
    ofTree? (.object ms) = some s := by
  obtain ⟨parts, hfields, hparts⟩ := Tree.exists_fields?_object h.legible
  have haddress : Tree.asString? (.string (some s.baseUrl)) = some s.baseUrl := rfl
  simp only [ofTree?, hfields, Option.bind_eq_bind, Option.bind_some]
  rw [h.baseUrl.orElse_of_eq (hparts "base_url" (by simp)) haddress, Option.bind_some,
    h.requestTimeoutSecs.orElse_of_eq (hparts "request_timeout_secs" (by simp))
      (Tree.asUInt64?_ofInt _),
    Option.bind_some,
    h.credentialBackend.orElse_eq (hparts "credential_backend" (by simp)) fun _ ht => ht.ofTree?_eq,
    Option.bind_some,
    h.lastEmail.orElse_of_eq (hparts "last_email" (by simp)) (Tree.asOption?_asString? _)]
  rfl

/-- The tree of settings. -/
def tree (s : Settings) : Tree :=
  .object
    [ (some "base_url", .string (some s.baseUrl)),
      (some "request_timeout_secs", .number (.ofInt s.requestTimeoutSecs.toNat)),
      (some "credential_backend", .string (some s.credentialBackend.name)),
      (some "last_email", textTree s.lastEmail) ]

theorem tree?_toJson (s : Settings) : s.toJson.tree? = some s.tree := by
  simp [toJson, tree, tree?, memberTrees?, Json.nat]

theorem ofTree?_tree (s : Settings) : ofTree? s.tree = some s :=
  HeldBy.ofTree?_eq
    { legible := .of_keys rfl (by decide)
      baseUrl := .member (by simp) rfl
      requestTimeoutSecs := .member (by simp) rfl
      credentialBackend := .member (by simp) (.name _)
      lastEmail := .member (by simp) rfl }

/-- **Settings are read back from their texts.** -/
theorem decode?_toJson (s : Settings) :
    decode? ofTree? s.toJson.pretty = some s ∧ decode? ofTree? s.toJson.compact = some s :=
  decode?_of_tree? s.tree?_toJson s.ofTree?_tree

/-- A file to which settings were written is loaded as these settings. -/
theorem load_fileText (s : Settings) : load (.text s.fileText) = .ok s := by
  have hread : parse? s.fileText = some s := s.decode?_toJson.1
  simp only [load, FileNode.isPresent, FileNode.read?, hread, not_true_eq_false, if_false]

end Settings

end AdminConsole
