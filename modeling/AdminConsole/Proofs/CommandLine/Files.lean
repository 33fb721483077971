import AdminConsole.CommandLine.Machine

/-!
# Files that others leave alone

What lies on a described machine is a tree, and it stays one whatever the program does to it
(`IsTree.replace`, `IsTree.openLog`): directories are made only where nothing lies, and what is put
at the end of a path never takes the place of a directory.

So a file keeps its text when a file of another name is written (`find_replace_of_ne`). All that
could get in its way is a change to a directory above it, and no directory is ever lost.
-/

namespace AdminConsole

/-! ### Names at the end of paths -/

namespace PathName

/-- What stands behind a slash are further parts. -/
theorem partsFrom_append_slash (done : List String) (part cs rest : List Char) :
    partsFrom done part (cs ++ '/' :: rest) = partsFrom (partsFrom done part cs) [] rest := by
  induction cs generalizing done part with
  | nil => rfl
  | cons c cs ih =>
    simp only [List.cons_append, partsFrom]
    split
    · exact ih (partsFrom.withPart done part) []
    · exact ih done (c :: part)

/-- The text is the name of one part. -/
def IsPart (name : String) : Prop := ∀ done, partsFrom done [] name.toList = name :: done

theorem exists_parts_slash {name : String} (h : IsPart name) (directory : String) :
    ∃ above, parts (directory ++ "/" ++ name) = name :: above := by
  refine ⟨parts directory, ?_⟩
  have hparts := partsFrom_append_slash [] [] directory.toList name.toList
  have hslash : (directory ++ "/" ++ name).toList = directory.toList ++ '/' :: name.toList := by
    simp
  rw [parts, hslash, hparts, h]
  rfl

/-- The last part of the path of something in a directory is its name. -/
theorem exists_parts_join {name : String} (h : IsPart name) (directory : String) :
    ∃ above, parts (join directory name) = name :: above := by
  unfold join
  split
  · rename_i hslash
    obtain ⟨cs, hcs⟩ := List.getLast?_eq_some_iff.mp hslash
    have hparts := partsFrom_append_slash [] [] cs name.toList
    have hlist : (directory ++ name).toList = cs ++ '/' :: name.toList := by
      simp [hcs]
    refine ⟨partsFrom [] [] cs, ?_⟩
    rw [parts, hlist, hparts, h]
  · exact exists_parts_slash h directory

end PathName

namespace CommandLine.Machine

open PathName

variable {m n : Machine} {p q : Place} {names : List String} {path : String}

theorem exists_ends_eq {last : String} {above : List String} (h : parts path = last :: above)
    (m : Machine) : ∃ above, m.ends path = some (last, above) := by
  unfold ends partsIn
  rw [h]
  cases isAbsolute path with
  | true => exact ⟨_, rfl⟩
  | false => exact ⟨_, rfl⟩

/-! ### Machines with the same files -/

/-- The two machines have the same files, the same servers answer and the same password would be
typed: they differ at most in what was read and what was told. -/
structure Resembles (m n : Machine) : Prop where
  directory : n.directory = m.directory
  places : n.places = m.places
  answer : n.answer = m.answer
  password : n.password = m.password

namespace Resembles

theorem refl (m : Machine) : m.Resembles m := ⟨rfl, rfl, rfl, rfl⟩

theorem trans {k : Machine} (h : m.Resembles n) (h' : n.Resembles k) : m.Resembles k :=
  ⟨h'.directory.trans h.directory, h'.places.trans h.places, h'.answer.trans h.answer,
    h'.password.trans h.password⟩

theorem look (h : m.Resembles n) (p : Place) : n.look p = m.look p := by
  simp only [Machine.look, h.places]

theorem follow (h : m.Resembles n) (p : Place) (names : List String) :
    n.follow p names = m.follow p names := by
  induction names generalizing p with
  | nil => rfl
  | cons name rest ih => simp only [Machine.follow, h.look, ih]

theorem find (h : m.Resembles n) (path : String) : n.find path = m.find path := by
  have hends : n.ends path = m.ends path := by
    simp only [ends, h.directory]
  have hunder (last : String) (x : Except FileNode Place) : n.under last x = m.under last x := by
    cases x with
    | error node => rfl
    | ok p => simp only [under, h.look]
  simp only [Machine.find, hends, h.follow, hunder]

theorem isTree (h : m.Resembles n) (ht : m.IsTree) : n.IsTree := by
  intro name p hp
  rw [h.look] at hp ⊢
  exact ht name p hp

end Resembles

/-! ### Trees stay trees -/

theorem look_nil (m : Machine) : m.look [] = .directory := by
  simp [look]

/-- Above a directory there is a directory. -/
theorem IsTree.look_drop (ht : m.IsTree) (hp : m.look p = .directory) :
    m.look (p.drop 1) = .directory := by
  cases p with
  | nil => exact hp
  | cons name p =>
    refine Classical.byContradiction fun hnot => ?_
    have habsent := ht name p hnot
    rw [hp] at habsent
    cases habsent

/-- Something may be put in a directory, though not in the place of a directory. -/
theorem IsTree.put (ht : m.IsTree) {name : String} {node : FileNode}
    (hp : m.look p = .directory) (hnode : node = .directory ∨ m.look (name :: p) ≠ .directory) :
    (m.put (name :: p) node).IsTree := by
  intro other q hq
  have hself := m.look_put_self node (List.cons_ne_nil name p)
  by_cases hplace : q = name :: p
  · subst hplace
    have hlonger : other :: name :: p ≠ name :: p := fun h => by simpa using congrArg List.length h
    have hnot : m.look (name :: p) ≠ .directory := by
      rcases hnode with rfl | hnot
      · exact absurd hself hq
      · exact hnot
    rw [look_put_of_ne m node hlonger]
    exact ht other _ hnot
  · rw [look_put_of_ne m node hplace] at hq
    have hother : other :: q ≠ name :: p := by
      rintro ⟨⟩
      exact hq hp
    rw [look_put_of_ne m node hother]
    exact ht other q hq

/-- Making directories keeps the tree, and leads to a directory. -/
theorem IsTree.make? (ht : m.IsTree) (hp : m.look p = .directory)
    (h : m.make? p names = some (q, n)) : n.IsTree ∧ n.look q = .directory := by
  induction names generalizing m p with
  | nil =>
    simp only [Machine.make?, Option.some.injEq, Prod.mk.injEq] at h
    obtain ⟨rfl, rfl⟩ := h
    exact ⟨ht, hp⟩
  | cons name rest ih =>
    simp only [Machine.make?] at h
    split at h
    · exact ih ht (ht.look_drop hp) h
    · split at h
      · cases h
      · split at h
        · next hl => exact ih ht hl h
        · next hl =>
          have hput : (m.put (name :: p) .directory).IsTree := ht.put hp (.inl rfl)
          exact ih hput (m.look_put_self .directory (List.cons_ne_nil name p)) h
        · cases h

/-- Making directories changes nothing that is there. -/
theorem look_of_make?_of_ne_absent (h : m.make? p names = some (q, n)) {x : Place}
    (hx : m.look x ≠ .absent) : n.look x = m.look x := by
  induction names generalizing m p with
  | nil =>
    simp only [make?, Option.some.injEq, Prod.mk.injEq] at h
    rw [h.2]
  | cons name rest ih =>
    simp only [make?] at h
    split at h
    · exact ih h hx
    · split at h
      · cases h
      · split at h
        · exact ih h hx
        · next hl =>
          have hsame : (m.put (name :: p) .directory).look x = m.look x := by
            refine look_put_of_ne m .directory ?_
            rintro rfl
            exact hx hl
          rw [← hsame] at hx ⊢
          exact ih h hx
        · cases h

/-- What a change to a file comes to, where it can be written. -/
theorem exists_replace_eq (ht : m.IsTree) {t : String} (h : ((m.find path).write? t).isSome)
    (node : FileNode) :
    ∃ last above p n, m.ends path = some (last, above) ∧ m.make? [] above = some (p, n) ∧
      n.look (last :: p) ≠ .directory ∧ m.replace path node = n.put (last :: p) node := by
  obtain ⟨last, above, p, n, hends, hmake, hlook, hname, -⟩ := exists_make?_of_write? ht h
  have hlast : last ≠ ".." := by
    rintro rfl
    simp [isName] at hname
  refine ⟨last, above, p, n, hends, hmake, hlook, ?_⟩
  simp only [replace, hends, hmake, if_neg hlast]

/-- **Trees.** A file that can be written may be changed. -/
theorem IsTree.replace (ht : m.IsTree) {t : String} (h : ((m.find path).write? t).isSome)
    (node : FileNode) : (m.replace path node).IsTree := by
  obtain ⟨last, above, p, n, -, hmake, hlook, heq⟩ := exists_replace_eq ht h node
  obtain ⟨hn, hp⟩ := ht.make? m.look_nil hmake
  rw [heq]
  exact hn.put hp (.inr hlook)

theorem IsTree.withDirectories? (ht : m.IsTree) (h : m.withDirectories? path = some n) :
    n.IsTree := by
  unfold Machine.withDirectories? at h
  split at h
  · cases h
    exact ht
  · obtain ⟨⟨q, n'⟩, hmake, rfl⟩ := Option.map_eq_some_iff.mp h
    exact (ht.make? m.look_nil hmake).1

/-- Opening a log file keeps the tree. -/
theorem IsTree.openLog (ht : m.IsTree) (path : String) : (m.openLog path).2.IsTree := by
  unfold Machine.openLog
  dsimp only
  generalize PathName.ofParts (PathName.partsIn m.directory path) = full
  cases hmade : m.withDirectories? full with
  | none => exact ht
  | some n =>
    have hn : n.IsTree := ht.withDirectories? hmade
    dsimp only
    split
    · next hfound =>
      have hwrite : ((n.find full).write? "").isSome := by
        rw [hfound]
        rfl
      exact hn.replace hwrite (.text "")
    · exact hn
    · exact hn
    · exact hn
    · exact hn

/-! ### Other files -/

/-- Where a text is found, the path leads through directories to a place with this text. -/
theorem exists_follow_of_find_eq_text {t : String} (h : m.find path = .text t) :
    ∃ last above p, m.ends path = some (last, above) ∧ m.follow [] above = .ok p ∧
      m.look (last :: p) = .text t ∧ isName last ∧ PathName.isOfDirectory path = false := by
  unfold find at h
  split at h
  · cases h
  · next last above hends =>
    unfold fitting at h
    split at h
    · next hfits =>
      have hfit : isName last ∧ PathName.isOfDirectory path = false := by
        rcases hfits with hdirectory | hfit
        · rw [hdirectory] at h
          cases h
        · exact hfit
      have hlast : last ≠ ".." := by
        rintro rfl
        simp [isName] at hfit
      cases hf : m.follow [] above with
      | error node =>
        rw [hf] at h
        rcases follow_error hf with rfl | rfl
        · cases h
        · cases h
      | ok p =>
        rw [hf, under, if_neg hlast] at h
        exact ⟨last, above, p, hends, hf, h, hfit⟩
    · cases h

/-- A text is found where the path leads through directories to a place with this text. -/
theorem find_eq_text {last t : String} {above : List String}
    (hends : m.ends path = some (last, above)) (hfollow : m.follow [] above = .ok p)
    (hlook : m.look (last :: p) = .text t) (hname : isName last)
    (hfile : PathName.isOfDirectory path = false) : m.find path = .text t := by
  have hlast : last ≠ ".." := by
    rintro rfl
    simp [isName] at hname
  simp [find, hends, hfollow, under, hlast, hlook, fitting, hname, hfile]

/-- **Other files.** A file keeps its text when another one, of another name, is changed. -/
theorem find_replace_of_ne (ht : m.IsTree) {other t t' : String} {node : FileNode}
    (hother : ((m.find other).write? t').isSome)
    (hne : ∀ a b, m.ends other = some a → m.ends path = some b → a.1 ≠ b.1)
    (htext : m.find path = .text t) : (m.replace other node).find path = .text t := by
  obtain ⟨last', above', p', n, hends', hmake, hfree, heq⟩ := exists_replace_eq ht hother node
  obtain ⟨last, above, p, hends, hfollow, hlook, hname, hfile⟩ :=
    exists_follow_of_find_eq_text htext
  have hlast : last' ≠ last := hne _ _ hends' hends
  have hplace : last :: p ≠ last' :: p' := by
    rintro ⟨⟩
    exact hlast rfl
  have hkept : ∀ x, m.look x = .directory → (n.put (last' :: p') node).look x = .directory := by
    intro x hx
    have hn : n.look x = .directory := (follow_of_make? hmake).2 x hx
    have hx' : x ≠ last' :: p' := by
      rintro rfl
      exact hfree hn
    rw [look_put_of_ne n node hx']
    exact hn
  have hdirectory : (n.put (last' :: p') node).ends path = some (last, above) := by
    rw [← hends, ends, ends, directory_put, directory_of_make? hmake]
  have hthere : (n.put (last' :: p') node).look (last :: p) = .text t := by
    rw [look_put_of_ne n node hplace, look_of_make?_of_ne_absent hmake (by simp [hlook]), hlook]
  rw [heq]
  exact find_eq_text hdirectory (follow_of_directories hkept hfollow) hthere hname hfile

end CommandLine.Machine

end AdminConsole
