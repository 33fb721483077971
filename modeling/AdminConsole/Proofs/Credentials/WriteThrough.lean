import AdminConsole.Backend.File
import AdminConsole.Proofs.Credentials.Operations
import AdminConsole.Proofs.Credentials.RoundTrip

/-!
# The credentials file is written through

Whatever a file held when a store was opened on it, it holds what is in memory as soon as one write
has been accepted, and until then it is left alone (`FileBackend.write_through`).

All that the backend does comes down to one function: given credentials to keep, it leaves behind
the file that keeps them (`FileNode.keeping`), which is none if there are no credentials, and does
so whatever the file was before (`FileBackend.persist_eq`). Hence the last accepted write alone
decides what the file is, by the credentials in memory, which no other operation changes
(`Store.backend_applyAll`). That a store opened on the file finds these credentials again is the
round trip of their text.
-/

namespace AdminConsole

open AdminConsole.Time

namespace StoredCredentials

/-- No token is there when there is none for any key. -/
theorem isEmpty_iff {c : StoredCredentials} : c.isEmpty = true ↔ ∀ key, c.get key = none := by
  simp only [isEmpty, TokenPair.isEmpty, Bool.and_eq_true, Option.isNone_iff_eq_none]
  constructor
  · rintro ⟨⟨⟨haccess, hrefresh⟩, htunnel⟩, hserver⟩ key
    cases key
    · exact haccess
    · exact hrefresh
    · exact htunnel
    · exact hserver
  · intro h
    exact ⟨⟨⟨h .access, h .refresh⟩, h .tunnel⟩, h .tunnelServer⟩

end StoredCredentials

/-- The file that keeps credentials: one with their text, or none if there are none. -/
def FileNode.keeping (c : StoredCredentials) : FileNode :=
  if c.isEmpty then .absent else .text c.fileText

theorem FileNode.keeping_eq_absent_iff {c : StoredCredentials} :
    keeping c = .absent ↔ ∀ key, c.get key = none := by
  rw [keeping, ← StoredCredentials.isEmpty_iff]
  split_ifs with hempty
  · exact iff_of_true rfl hempty
  · exact iff_of_false nofun hempty

/-- The text of a file that keeps credentials is read as these credentials. -/
theorem FileNode.exists_keeping_eq_text {c : StoredCredentials} (h : ∀ m ∈ c.savedAt, m.IsValid)
    (hpresent : keeping c ≠ .absent) :
    ∃ text, keeping c = .text text ∧ StoredCredentials.parse? text = some c := by
  unfold keeping at hpresent ⊢
  split_ifs at hpresent ⊢ with hempty
  · exact absurd rfl hpresent
  · exact ⟨c.fileText, rfl, StoredCredentials.parse?_fileText h⟩

namespace FileBackend

/-- The operations on the file **succeed**: it can be written and it can be removed. -/
structure Succeeds (b : FileBackend) : Prop where
  save : ∀ c, (b.save c).1 = .ok ()
  clear : b.clear.1 = .ok ()

variable {b : FileBackend}

/-- The file operations succeed on what is a file and where none is yet. -/
theorem succeeds_iff : b.Succeeds ↔ b.node ≠ .directory ∧ b.node ≠ .blocked := by
  obtain ⟨directory, node⟩ := b
  constructor
  · rintro ⟨hsave, hclear⟩
    refine ⟨?_, ?_⟩
    · rintro rfl
      cases hclear
    · rintro rfl
      cases hsave {}
  · rintro ⟨hdirectory, hblocked⟩
    cases node with
    | directory => exact absurd rfl hdirectory
    | blocked => exact absurd rfl hblocked
    | _ => exact ⟨fun _ => rfl, rfl⟩

/-- The backend leaves behind the file that keeps what it was given. -/
theorem persist_eq (h : b.Succeeds) (c : StoredCredentials) :
    Store.persist c b = { b with node := .keeping c } := by
  obtain ⟨directory, node⟩ := b
  obtain ⟨hdirectory, hblocked⟩ := succeeds_iff.mp h
  unfold Store.persist FileNode.keeping
  cases node with
  | directory => exact absurd rfl hdirectory
  | blocked => exact absurd rfl hblocked
  | _ => split <;> rfl

/-- A file that keeps credentials can be written and removed again. -/
theorem succeeds_keeping (b : FileBackend) (c : StoredCredentials) :
    { b with node := .keeping c }.Succeeds := by
  rw [succeeds_iff]
  simp only [FileNode.keeping]
  split_ifs
  · exact ⟨nofun, nofun⟩
  · exact ⟨nofun, nofun⟩

end FileBackend

namespace Store

variable {s : Store FileBackend}

/-- The file after a write keeps the credentials in memory. -/
theorem backend_write (h : s.backend.Succeeds) (now : Moment) (c : StoredCredentials) :
    (s.write now c).backend = { s.backend with node := .keeping (s.write now c).stored } :=
  FileBackend.persist_eq h _

/-- **What becomes of the file**: it keeps what is in memory once a write has been accepted, and is
left alone before. -/
theorem backend_applyAll (h : s.backend.Succeeds) (ops : List (Moment × StoreWrite)) :
    (s.applyAll ops).backend =
      if s.acceptsAny ops then { s.backend with node := .keeping (s.applyAll ops).stored }
      else s.backend := by
  induction ops generalizing s with
  | nil => rfl
  | cons op ops ih =>
    rw [acceptsAny, applyAll]
    cases haccepts : s.accepts op.2 with
    | false =>
      obtain ⟨peer, hpeer⟩ := exists_apply_eq_peer haccepts op.1
      rw [hpeer, Bool.false_or]
      exact ih h
    | true =>
      -- Whether or not a later write is accepted, the file keeps what is in memory in the end.
      obtain ⟨c, hwrite⟩ := exists_apply_eq_write haccepts op.1
      have hbackend := backend_write h op.1 c
      have hsucceeds : (s.write op.1 c).backend.Succeeds := by
        rw [hbackend]
        exact FileBackend.succeeds_keeping _ _
      rw [hwrite, Bool.true_or, if_pos rfl, ih hsucceeds]
      split_ifs with hlater
      · rw [hbackend]
      · obtain ⟨peer, hpeer⟩ := applyAll_of_acceptsNone (eq_false_of_ne_true hlater)
        rw [hpeer, hbackend]

/-! ### Opening a store on the file -/

/-- A store that has just been opened has no peer, is of generation 0 and has changed nothing. -/
theorem load_eq (b : FileBackend) :
    load b = { stored := b.load.toOption.join.getD {}, backend := b } := by
  have hload : Backend.load b = (b.load, b) := rfl
  simp only [load, hload]
  cases b.load with
  | error e => rfl
  | ok kept =>
    cases kept with
    | none => rfl
    | some c => rfl

theorem backend_load (b : FileBackend) : (load b).backend = b := by
  rw [load_eq]

/-- A store that is opened on the file that keeps credentials has these credentials. -/
theorem get_load_keeping {b : FileBackend} {c : StoredCredentials}
    (h : ∀ m ∈ c.savedAt, m.IsValid) (hnode : b.node = .keeping c) (key : CredentialKey) :
    (load b).get key = c.get key := by
  cases hempty : c.isEmpty with
  | false =>
    have hload : b.load = .ok (some c) := by
      simp [FileBackend.load, hnode, FileNode.keeping, hempty, FileNode.isPresent, FileNode.read?,
        StoredCredentials.parse?_fileText h]
    rw [load_eq, hload]
    rfl
  | true =>
    have hload : b.load = .ok none := by
      simp [FileBackend.load, hnode, FileNode.keeping, hempty, FileNode.isPresent]
    rw [load_eq, hload, StoredCredentials.isEmpty_iff.mp hempty key]
    cases key <;> rfl

end Store

namespace FileBackend

variable {b : FileBackend} {ops : List (Moment × StoreWrite)} {s : Store FileBackend}

/-! ### From opening a store on -/

section Opened

variable (hs : (Store.load b).applyAll ops = s)
include hs

/-- As long as no write was accepted nothing has changed but the peer. -/
theorem exists_eq_of_acceptsNone (haccepts : (Store.load b).acceptsAny ops = false) :
    ∃ peer, s = { Store.load b with peer := peer } := by
  obtain ⟨peer, hpeer⟩ := Store.applyAll_of_acceptsNone haccepts
  exact ⟨peer, hs.symm.trans hpeer⟩

theorem backend_of_acceptsNone (haccepts : (Store.load b).acceptsAny ops = false) :
    s.backend = b := by
  obtain ⟨peer, rfl⟩ := exists_eq_of_acceptsNone hs haccepts
  exact Store.backend_load b

/-- Once a write was accepted the file keeps what is in memory. -/
theorem node_of_acceptsAny (hb : b.Succeeds) (haccepts : (Store.load b).acceptsAny ops = true) :
    s.backend.node = .keeping s.stored := by
  have hload : (Store.load b).backend = b := Store.backend_load b
  have hbackend := Store.backend_applyAll (hload.symm ▸ hb) ops
  rw [hs, haccepts, if_pos rfl] at hbackend
  rw [hbackend]

theorem isValid_savedAt_of_acceptsAny (hops : ∀ op ∈ ops, op.1.IsValid)
    (haccepts : (Store.load b).acceptsAny ops = true) : ∀ m ∈ s.stored.savedAt, m.IsValid := by
  obtain ⟨op, hop, hsaved⟩ := Store.exists_savedAt_applyAll haccepts
  rw [hs] at hsaved
  intro m hm
  obtain rfl : op.1 = m := Option.some.inj (hsaved.symm.trans hm)
  exact hops op hop

/-- A store that is opened on the file has the tokens that are in memory. -/
theorem get_reopened (hb : b.Succeeds) (hops : ∀ op ∈ ops, op.1.IsValid) (key : CredentialKey) :
    (Store.load s.backend).get key = s.get key := by
  cases haccepts : (Store.load b).acceptsAny ops with
  | false =>
    obtain ⟨peer, rfl⟩ := exists_eq_of_acceptsNone hs haccepts
    rw [Store.backend_load]
    rfl
  | true =>
    exact Store.get_load_keeping (isValid_savedAt_of_acceptsAny hs hops haccepts)
      (node_of_acceptsAny hs hb haccepts) key

/-- Other operations on peers make no other file. -/
theorem backend_of_filter_eq {ops' : List (Moment × StoreWrite)}
    (hsame : ops'.filter (fun op => !op.2.concernsPeer) =
      ops.filter fun op => !op.2.concernsPeer) :
    ((Store.load b).applyAll ops').backend = s.backend := by
  have hrest : ((Store.load b).applyAll ops').clearPeer = s.clearPeer := by
    rw [Store.clearPeer_applyAll, hsame, ← Store.clearPeer_applyAll, hs]
  have hfile := congrArg Store.backend hrest
  exact hfile

end Opened

/-- **The credentials file is written through.** Let a store be opened on a file on which the file
operations succeed, whatever it holds, and let any operations follow.

As long as no write was accepted the file is as it was. Afterwards there is no file exactly when
none of the four tokens is held, and otherwise its text is read as the credentials in memory, the
time of the last write included. In either case a store that is opened on the file has the same
tokens, no peer and generation 0; and what the file is does not depend on the operations on the
peer. -/
theorem write_through (hb : b.Succeeds) (hops : ∀ op ∈ ops, op.1.IsValid)
    (hs : (Store.load b).applyAll ops = s) :
    ((Store.load b).acceptsAny ops = false → s.backend = b) ∧
    ((Store.load b).acceptsAny ops = true →
      (s.backend.node = .absent ↔ ∀ key, s.get key = none) ∧
      ((∃ key, s.get key ≠ none) →
        ∃ text, s.backend.node = .text text ∧ StoredCredentials.parse? text = some s.stored)) ∧
    ((∀ key, (Store.load s.backend).get key = s.get key) ∧
      (Store.load s.backend).peer = none ∧ (Store.load s.backend).generation = 0) ∧
    ∀ ops' : List (Moment × StoreWrite),
      ops'.filter (fun op => !op.2.concernsPeer) = ops.filter (fun op => !op.2.concernsPeer) →
      ((Store.load b).applyAll ops').backend = s.backend := by
  refine ⟨backend_of_acceptsNone hs, ?_, ⟨get_reopened hs hb hops, ?_⟩, fun _ =>
    backend_of_filter_eq hs⟩
  · intro haccepts
    have hsaved := isValid_savedAt_of_acceptsAny hs hops haccepts
    rw [node_of_acceptsAny hs hb haccepts]
    refine ⟨FileNode.keeping_eq_absent_iff, ?_⟩
    rintro ⟨key, hkey⟩
    refine FileNode.exists_keeping_eq_text hsaved ?_
    intro habsent
    exact hkey (FileNode.keeping_eq_absent_iff.mp habsent key)
  · rw [Store.load_eq]
    exact ⟨rfl, rfl⟩

/-- A file that is no text is replaced by the first write. A renewal with another refresh token is
refused, and a blank access token is none. -/
theorem write_through_binary :
    let first : Moment := ⟨⟨2024, 2, 29⟩, 23, 59, 58, 120000000⟩
    let last : Moment := ⟨⟨2024, 3, 1⟩, 0, 0, 1, 5⟩
    let s := (Store.load ({ directory := "cache", node := .binary [255] } : FileBackend)).applyAll
      [ (first, .setPeer ⟨"https://peer.example", none⟩),
        (first, .setSession ⟨some "a1", some "r1"⟩),
        (last, .renew "r0" "a2" none),
        (last, .set .access " ") ]
    ∃ text, s.backend.node = .text text ∧
      StoredCredentials.parse? text =
        some { session := ⟨none, some "r1"⟩, savedAt := some last } := by
  intro first last s
  have hfirst : first.IsValid := ⟨by decide, by decide, by decide, by decide, by decide, by decide⟩
  have hlast : last.IsValid := ⟨by decide, by decide, by decide, by decide, by decide, by decide⟩
  have hops : ∀ op ∈ [ (first, StoreWrite.setPeer ⟨"https://peer.example", none⟩),
      (first, .setSession ⟨some "a1", some "r1"⟩), (last, .renew "r0" "a2" none),
      (last, .set .access " ") ], op.1.IsValid := by
    simp [hfirst, hlast]
  have hb : ({ directory := "cache", node := .binary [255] } : FileBackend).Succeeds :=
    succeeds_iff.mpr ⟨nofun, nofun⟩
  obtain ⟨-, hkept, -⟩ := write_through hb hops (rfl : _ = s)
  exact (hkept (by decide)).2 ⟨.refresh, by decide⟩

end FileBackend

end AdminConsole
