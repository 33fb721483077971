import AdminConsole.Identity
import AdminConsole.Proofs.Credentials.RoundTrip
import AdminConsole.Proofs.Settings

/-!
# What is stored is read back

Credentials, settings and users are written as JSON in one of two layouts: over lines in a file,
without white space in a keychain entry and wherever a user is handed on. Either text is read as the
very value that was written (`stored_forms_read_back`). Nothing is asked of texts, which may hold
any characters, nor of numbers; only the time of the last write has to be a moment that exists.

Each record has its tree, by way of which both layouts are covered at once (`decode?_of_tree?`), and
the members of this tree hold the record (`UserInfo.HeldBy`, as for credentials and settings).
-/

namespace AdminConsole

open AdminConsole.Json AdminConsole.Time

namespace UserInfo

/-- The tree of the number of a user, or of null where there is none. -/
def idTree : Option Int64 → Tree
  | none => .null
  | some i => .number (.ofInt i.toInt)

theorem asOption?_idTree (id : Option Int64) :
    (idTree id).asOption? Tree.asInt64? = some id := by
  cases id with
  | none => rfl
  | some i =>
    have hread := Tree.asInt64?_ofInt i
    simp only [idTree, Tree.asOption?, hread, Option.map_some]

/-- The members of an object hold this user. -/
structure HeldBy (u : UserInfo) (ms : List (Option String × Tree)) : Prop where
  legible : Legible ["id", "email", "user_role", "allowed_menus"] ms
  id : Given ms "id" (fun t v => t = idTree v) none u.id
  email : Given ms "email" (fun t v => t = .string (some v)) "" u.email
  userRole : Given ms "user_role" (fun t v => t = .string (some v)) "user" u.userRole
  allowedMenus : Given ms "allowed_menus" (fun t v => t = textsTree v) [] u.allowedMenus

theorem HeldBy.ofTree?_eq {u : UserInfo} {ms : List (Option String × Tree)} (h : u.HeldBy ms) :
    ofTree? (.object ms) = some u := by
  obtain ⟨parts, hfields, hparts⟩ := Tree.exists_fields?_object h.legible
  have htext (s : String) : Tree.asString? (.string (some s)) = some s := rfl
  simp only [ofTree?, hfields, Option.bind_eq_bind, Option.bind_some, Fields.optional_object]
  rw [h.id.orElse_of_eq (hparts "id" (by simp)) (asOption?_idTree _), Option.bind_some,
    h.email.orElse_of_eq (hparts "email" (by simp)) (htext _), Option.bind_some,
    h.userRole.orElse_of_eq (hparts "user_role" (by simp)) (htext _), Option.bind_some,
    h.allowedMenus.orElse_of_eq (hparts "allowed_menus" (by simp)) (Tree.asList?_textsTree _)]
  rfl

/-- The tree of a user. -/
def tree (u : UserInfo) : Tree :=
  .object
    [ (some "id", idTree u.id),
      (some "email", .string (some u.email)),
      (some "user_role", .string (some u.userRole)),
      (some "allowed_menus", textsTree u.allowedMenus) ]

theorem tree?_toJson (u : UserInfo) : u.toJson.tree? = some u.tree := by
  obtain ⟨id, email, userRole, allowedMenus⟩ := u
  have hmenus := elementTrees?_map_string allowedMenus
  cases id with
  | none => simp [toJson, tree, idTree, textsTree, tree?, memberTrees?, hmenus]
  | some i => simp [toJson, tree, idTree, textsTree, tree?, memberTrees?, hmenus, Json.int]

theorem ofTree?_tree (u : UserInfo) : ofTree? u.tree = some u :=
  HeldBy.ofTree?_eq
    { legible := .of_keys rfl (by decide)
      id := .member (by simp) rfl
      email := .member (by simp) rfl
      userRole := .member (by simp) rfl
      allowedMenus := .member (by simp) rfl }

end UserInfo

/-- **What is stored is read back.** Credentials, settings and users are read exactly from both of
their texts, the one that is laid out over lines and the one without white space. -/
theorem stored_forms_read_back (c : StoredCredentials) (hsaved : ∀ m ∈ c.savedAt, m.IsValid)
    (s : Settings) (u : UserInfo) :
    (decode? StoredCredentials.ofTree? c.toJson.pretty = some c ∧
      decode? StoredCredentials.ofTree? c.toJson.compact = some c) ∧
    (decode? Settings.ofTree? s.toJson.pretty = some s ∧
      decode? Settings.ofTree? s.toJson.compact = some s) ∧
    (decode? UserInfo.ofTree? u.toJson.pretty = some u ∧
      decode? UserInfo.ofTree? u.toJson.compact = some u) :=
  ⟨decode?_of_tree? c.tree?_toJson (StoredCredentials.ofTree?_tree hsaved),
    s.decode?_toJson,
    decode?_of_tree? u.tree?_toJson u.ofTree?_tree⟩

/-- Quotes, control characters and characters beyond the basic plane are kept, and so are the ends
of the ranges of numbers and the nanoseconds of a leap second. -/
theorem stored_forms_read_back_extremes :
    let leap : Moment := ⟨⟨9999, 12, 31⟩, 23, 59, 59, 1999999999⟩
    let c : StoredCredentials :=
      { session := ⟨some "a\"\\\x00\n", some "\x7f𝄞"⟩, tunnelServerToken := some "",
        savedAt := some leap }
    let s : Settings := ⟨"", 0xFFFFFFFFFFFFFFFF, .keyring, some "ü\t@b"⟩
    let u : UserInfo := ⟨some (-0x8000000000000000), "", "role", ["", "\u2028"]⟩
    decode? StoredCredentials.ofTree? c.toJson.pretty = some c ∧
      decode? Settings.ofTree? s.toJson.compact = some s ∧
      decode? UserInfo.ofTree? u.toJson.compact = some u := by
  intro leap c s u
  have hleap : leap.IsValid := ⟨by decide, by decide, by decide, by decide, by decide, by decide⟩
  have hsaved : ∀ m ∈ c.savedAt, m.IsValid := by
    intro m hm
    obtain rfl : leap = m := Option.some.inj hm
    exact hleap
  obtain ⟨⟨hcredentials, -⟩, ⟨-, hsettings⟩, -, huser⟩ := stored_forms_read_back c hsaved s u
  exact ⟨hcredentials, hsettings, huser⟩

end AdminConsole
