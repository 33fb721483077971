import AdminConsole.CommandLine.Program

/-!
# Described machines

A `Machine` is a machine that is only described: its files and directories, what is typed into it,
what was written on its screen, and how servers answer. The program can be run on it like on a real
one, and what it did can be looked at afterwards.

Paths are followed from place to place: each name but the last has to be that of a directory, and
two dots lead to the place above. What can be written is found afterwards
(`find_replace_self`).
-/

namespace AdminConsole.CommandLine

/-- A place where a file or a directory may be: the names that lead there from the root, last one
first. -/
abbrev Place := List String

/-- A described machine. -/
structure Machine where
  /-- The directory that relative paths start from. -/
  directory : String
  /-- The text of the nearest environment file. -/
  environmentFile : Option String := none
  /-- What is still to be read from the standard input. -/
  input : String := ""
  /-- The password that is typed unseen, where that is possible. -/
  password : Option String := none
  /-- What was written to the standard output. -/
  output : String := ""
  /-- The lines on the error output. -/
  errors : List String := []
  /-- What lies at some places; nothing lies at the others. -/
  places : List (Place × FileNode) := []
  /-- How servers answer. -/
  answer : Settings → Request → Except ApiError Response

namespace Machine

/-! ### Places -/

/-- What lies at a place. The root is a directory. -/
def look (m : Machine) (p : Place) : FileNode :=
  if p = [] then .directory else (m.places.lookup p).getD .absent

/-- The machine after what lies at a place has changed. -/
def put (m : Machine) (p : Place) (node : FileNode) : Machine :=
  { m with places := (p, node) :: m.places }

theorem look_put_self (m : Machine) {p : Place} (node : FileNode) (h : p ≠ []) :
    (m.put p node).look p = node := by
  simp [look, put, h]

theorem look_put_of_ne (m : Machine) {p q : Place} (node : FileNode) (h : q ≠ p) :
    (m.put p node).look q = m.look q := by
  have hne : (q == p) = false := by simp [h]
  simp [look, put, List.lookup_cons, hne]

/-- The machine with something at a place, and with directories at all places above. -/
def withPlace (m : Machine) (p : Place) (node : FileNode) : Machine :=
  (List.range p.length).foldl (fun m n => m.put (p.drop (n + 1)) .directory) (m.put p node)

/-- A name that something can have: not that of the directory above, not too long, and without the
character that ends names for the system. -/
def isName (name : String) : Bool :=
  name != ".." && Text.byteLength name.toList ≤ 255 && !name.toList.contains '\x00'

/-! ### Following a path -/

/-- Follows names from a place through directories. Nothing is found behind a name that is missing,
and nothing can come there where not all that follow are names that something can have. -/
def follow (m : Machine) (p : Place) : List String → Except FileNode Place
  | [] => .ok p
  | name :: rest =>
    if name = ".." then m.follow (p.drop 1) rest
    else if ¬ isName name then .error .blocked
    else
      match m.look (name :: p) with
      | .directory => m.follow (name :: p) rest
      | .absent => .error (if rest.all isName then .absent else .blocked)
      | _ => .error .blocked

/-- Follows names from a place and makes the directories that are missing. -/
def make? (m : Machine) (p : Place) : List String → Option (Place × Machine)
  | [] => some (p, m)
  | name :: rest =>
    if name = ".." then m.make? (p.drop 1) rest
    else if ¬ isName name then none
    else
      match m.look (name :: p) with
      | .directory => m.make? (name :: p) rest
      | .absent => (m.put (name :: p) .directory).make? (name :: p) rest
      | _ => none

/-- The last part of a path from the root, and the parts before it, first one first. -/
def ends (m : Machine) (path : String) : Option (String × List String) :=
  match PathName.partsIn m.directory path with
  | [] => none
  | last :: above => some (last, above.reverse)

/-- What lies under a name where others lead, or what is in their way. -/
def under (m : Machine) (last : String) : Except FileNode Place → FileNode
  | .error node => node
  | .ok p => if last = ".." then .directory else m.look (last :: p)

/-- What lies under the last name of a path, as far as it can be there: nothing but a directory has
a name that is not fit for a file. -/
def fitting (path last : String) (node : FileNode) : FileNode :=
  if node = .directory ∨ (isName last ∧ PathName.isOfDirectory path = false) then node else .blocked

/-- What is found under the name of a file. -/
def find (m : Machine) (path : String) : FileNode :=
  match m.ends path with
  | none => .directory
  | some (last, above) => fitting path last (m.under last (m.follow [] above))

/-- The machine with all directories that a path leads through, if they can be made. -/
def withDirectories? (m : Machine) (path : String) : Option Machine :=
  match m.ends path with
  | none => some m
  | some (_, above) => (m.make? [] above).map Prod.snd

/-- The machine after what is found under the name of a file has changed. The directories that the
name leads through are made. -/
def replace (m : Machine) (path : String) (node : FileNode) : Machine :=
  match m.ends path with
  | none => m
  | some (last, above) =>
    match m.make? [] above with
    | none => m
    | some (p, m) => if last = ".." then m else m.put (last :: p) node

/-- Opens a log file and makes it if there is none, unless something else is in its place. Only the
names in the path count, however it ends. -/
def openLog (m : Machine) (path : String) : Bool × Machine :=
  let full := PathName.ofParts (PathName.partsIn m.directory path)
  match m.withDirectories? full with
  | none => (false, m)
  | some m =>
    match m.find full with
    | .absent => (true, m.replace full (.text ""))
    | .text _ | .binary _ => (true, m)
    | .directory | .blocked => (false, m)

/-! ### Running -/

/-- The next line of the standard input, and the machine after it was read. -/
def readLine (m : Machine) : String × Machine :=
  let line := m.input.toList.takeWhile (· != '\n')
  (String.ofList line, { m with input := String.ofList (m.input.toList.drop (line.length + 1)) })

/-- The machine as a program that runs on it sees it. -/
def host : Host (StateM Machine) where
  environmentFile := fun m => (m.environmentFile, m)
  say s := fun m => ((), { m with output := m.output ++ s })
  warn s := fun m => ((), { m with errors := m.errors ++ [s] })
  readLine := fun m => (some m.readLine.1, m.readLine.2)
  readPassword _ := fun m => (m.password, m)
  find path := fun m => (m.find path, m)
  replace path node := fun m => ((), m.replace path node)
  openLog path := fun m => m.openLog path
  send settings request := fun m => (m.answer settings request, m)

/-- How a run of the program ends, and the machine afterwards. -/
def run (m : Machine) (now : Time.Moment) (env : Environment) (args : List String) :
    ExitCode × Machine := (CommandLine.run host now env args).run m

/-! ### What was written is found -/

/-- Something lies only in directories. -/
def IsTree (m : Machine) : Prop :=
  ∀ name p, m.look p ≠ .directory → m.look (name :: p) = .absent

theorem IsTree.look_append {m : Machine} (h : m.IsTree) {p : Place} (hp : m.look p = .absent)
    (names : List String) : m.look (names ++ p) = .absent := by
  induction names with
  | nil => exact hp
  | cons name rest ih => exact h name (rest ++ p) (by simp [ih])

/-- A path goes through where there are more directories, too. -/
theorem follow_of_directories {m n : Machine} {p q : Place} {names : List String}
    (hd : ∀ x, m.look x = .directory → n.look x = .directory) (h : m.follow p names = .ok q) :
    n.follow p names = .ok q := by
  induction names generalizing p with
  | nil => simpa [follow] using h
  | cons name rest ih =>
    simp only [follow] at h ⊢
    split at h
    · next hn => simpa only [hn, if_true] using ih h
    · next hn =>
      split at h
      · cases h
      · next hv =>
        simp only [hn, hv, if_false]
        split at h
        · next hl => simpa only [hd _ hl] using ih h
        · cases h
        · cases h

@[simp] theorem directory_put (m : Machine) (p : Place) (node : FileNode) :
    (m.put p node).directory = m.directory := rfl

theorem directory_of_make? {m n : Machine} {p q : Place} {names : List String}
    (h : m.make? p names = some (q, n)) : n.directory = m.directory := by
  induction names generalizing m p with
  | nil =>
    simp only [make?, Option.some.injEq, Prod.mk.injEq] at h
    rw [h.2]
  | cons name rest ih =>
    simp only [make?] at h
    split at h
    · exact ih h
    · split at h
      · cases h
      · split at h
        · exact ih h
        · exact (ih h).trans (directory_put ..)
        · cases h

/-- Where a path goes through, no directory has to be made. -/
theorem make?_of_follow {m : Machine} {p q : Place} {names : List String}
    (h : m.follow p names = .ok q) : m.make? p names = some (q, m) := by
  induction names generalizing p with
  | nil => simp only [follow, Except.ok.injEq] at h; simp [make?, h]
  | cons name rest ih =>
    simp only [follow] at h
    simp only [make?]
    split at h
    · next hn => simpa only [hn, if_true] using ih h
    · next hn =>
      split at h
      · cases h
      · next hv =>
        simp only [hn, hv, if_false]
        split at h
        · next hl => simpa only [hl] using ih h
        · cases h
        · cases h

/-- A path goes through once its directories were made, and no directory was lost. -/
theorem follow_of_make? {m n : Machine} {p q : Place} {names : List String}
    (h : m.make? p names = some (q, n)) :
    n.follow p names = .ok q ∧ ∀ x, m.look x = .directory → n.look x = .directory := by
  induction names generalizing m p with
  | nil =>
    simp only [make?, Option.some.injEq, Prod.mk.injEq] at h
    obtain ⟨rfl, rfl⟩ := h
    exact ⟨rfl, fun _ hx => hx⟩
  | cons name rest ih =>
    simp only [make?] at h
    simp only [follow]
    split at h
    · next hn => simpa only [hn, if_true] using ih h
    · next hn =>
      split at h
      · cases h
      · next hv =>
        simp only [hn, hv, if_false]
        split at h
        · next hl =>
          obtain ⟨hf, hd⟩ := ih h
          simpa only [hd _ hl] using ⟨hf, hd⟩
        · next hl =>
          obtain ⟨hf, hd⟩ := ih h
          have hk := hd _ (look_put_self m .directory (List.cons_ne_nil name p))
          refine ⟨by simpa only [hk] using hf, fun x hx => hd x ?_⟩
          rw [look_put_of_ne m .directory (fun e => by rw [e, hl] at hx; cases hx)]
          exact hx
        · cases h

/-- Directories are made on the way only, and not behind its end. -/
theorem look_of_make? {m n : Machine} {p q : Place} {names : List String} (hn : ".." ∉ names)
    (h : m.make? p names = some (q, n)) :
    q = names.reverse ++ p ∧ ∀ x : Place, q.length < x.length → n.look x = m.look x := by
  induction names generalizing m p with
  | nil =>
    simp only [make?, Option.some.injEq, Prod.mk.injEq] at h
    obtain ⟨rfl, rfl⟩ := h
    exact ⟨rfl, fun _ _ => rfl⟩
  | cons name rest ih =>
    simp only [List.mem_cons, not_or] at hn
    have hne : ¬ name = ".." := fun e => hn.1 e.symm
    simp only [make?, hne, if_false] at h
    split at h
    · cases h
    · split at h
      · obtain ⟨hq, hx⟩ := ih hn.2 h
        exact ⟨by simp [hq], hx⟩
      · obtain ⟨hq, hx⟩ := ih hn.2 h
        refine ⟨by simp [hq], fun x hl => ?_⟩
        rw [hx x hl, look_put_of_ne]
        intro e
        rw [e, hq] at hl
        simp at hl
        omega
      · cases h

/-- Nothing lies at the end of a path on which a directory was missing. -/
theorem look_of_follow_absent {m n : Machine} (ht : m.IsTree) {p q : Place} {names : List String}
    (hf : m.follow p names = .error .absent) (h : m.make? p names = some (q, n)) (last : String) :
    n.look (last :: q) = .absent := by
  induction names generalizing p with
  | nil => simp [follow] at hf
  | cons name rest ih =>
    simp only [follow] at hf
    simp only [make?] at h
    split at hf
    · next hn =>
      simp only [hn, if_true] at h
      exact ih hf h
    · next hn =>
      simp only [hn, if_false] at h
      split at hf
      · cases hf
      · next hv =>
        simp only [hv, if_false] at h
        split at hf
        · next hl =>
          simp only [hl] at h
          exact ih hf h
        · next hl =>
          simp only [hl] at h
          have hr : ".." ∉ rest := by
            intro hm
            have hr : rest.all isName = false :=
              List.all_eq_false.2 ⟨_, hm, by simp [isName]⟩
            simp [hr] at hf
          obtain ⟨hq, hx⟩ := look_of_make? hr h
          rw [hx _ (by simp), hq, ← List.cons_append, look_put_of_ne]
          · exact ht.look_append hl (last :: rest.reverse)
          · intro e
            have := congrArg List.length e
            simp at this
            omega
        · cases hf

/-- What hinders a path is that something is missing or in its way. -/
theorem follow_error {m : Machine} {p : Place} {names : List String} {node : FileNode}
    (h : m.follow p names = .error node) : node = .absent ∨ node = .blocked := by
  induction names generalizing p with
  | nil => cases h
  | cons name rest ih =>
    simp only [follow] at h
    split at h
    · exact ih h
    · split at h
      · cases h; exact .inr rfl
      · split at h
        · exact ih h
        · split at h <;> cases h
          · exact .inl rfl
          · exact .inr rfl
        · cases h; exact .inr rfl

/-- Directories can be made where nothing lies. -/
theorem exists_make? {m : Machine} {p : Place} {names : List String}
    (hp : ∀ l : Place, l ≠ [] → m.look (l ++ p) = .absent) (hn : names.all isName) :
    ∃ q n, m.make? p names = some (q, n) := by
  induction names generalizing m p with
  | nil => exact ⟨p, m, rfl⟩
  | cons name rest ih =>
    simp only [List.all_cons, Bool.and_eq_true] at hn
    have hne : ¬ name = ".." := by
      rintro rfl
      simp [isName] at hn
    have hl : m.look (name :: p) = .absent := hp [name] (by simp)
    simp only [make?, hne, hn.1, hl, if_false, not_true_eq_false]
    refine ih (fun l h => ?_) hn.2
    rw [look_put_of_ne _ _ (by simpa using h), List.append_cons]
    exact hp (l ++ [name]) (by simp)

/-- Directories that are missing on a path can be made. -/
theorem exists_make?_of_follow {m : Machine} (ht : m.IsTree) {p : Place} {names : List String}
    (h : m.follow p names = .error .absent) : ∃ q n, m.make? p names = some (q, n) := by
  induction names generalizing p with
  | nil => cases h
  | cons name rest ih =>
    simp only [follow] at h
    simp only [make?]
    by_cases hn : name = ".."
    · simp only [hn, if_true] at h ⊢
      exact ih h
    · by_cases hv : isName name
      · simp only [hn, hv, not_true_eq_false, if_false] at h ⊢
        cases hl : m.look (name :: p) with
        | directory =>
          simp only [hl] at h
          exact ih h
        | absent =>
          simp only [hl] at h
          have hr : rest.all isName := by
            cases hr : rest.all isName with
            | true => rfl
            | false => simp [hr] at h
          refine exists_make? (fun l hne => ?_) hr
          rw [look_put_of_ne m .directory (fun e => hne (by simpa using e))]
          exact ht.look_append hl l
        | text | binary | blocked =>
          simp only [hl] at h
          cases h
      · simp [hn, hv] at h

/-- What can be written has a name that is fit for a file. -/
theorem fitting_write? {path last t : String} {node : FileNode}
    (h : ((fitting path last node).write? t).isSome) :
    isName last ∧ PathName.isOfDirectory path = false ∧ (node.write? t).isSome := by
  unfold fitting at h
  split at h
  · next hc =>
    rcases hc with rfl | hc
    · simp [FileNode.write?] at h
    · exact ⟨hc.1, hc.2, h⟩
  · simp [FileNode.write?] at h

/-- Where something can be written, the directories on the way are there or can be made, and no
directory lies at the end. -/
theorem exists_make?_of_write? {m : Machine} (ht : m.IsTree) {path t : String}
    (h : ((m.find path).write? t).isSome) :
    ∃ last above p n, m.ends path = some (last, above) ∧ m.make? [] above = some (p, n) ∧
      n.look (last :: p) ≠ .directory ∧ isName last ∧ PathName.isOfDirectory path = false := by
  cases he : m.ends path with
  | none => simp [find, he, FileNode.write?] at h
  | some e =>
    obtain ⟨last, above⟩ := e
    simp only [find, he] at h
    obtain ⟨hn, hd, hw⟩ := fitting_write? h
    have hlast : ¬ last = ".." := by
      rintro rfl
      simp [isName] at hn
    cases hf : m.follow [] above with
    | ok p =>
      refine ⟨last, above, p, m, rfl, make?_of_follow hf, fun hl => ?_, hn, hd⟩
      simp [hf, under, hlast, hl, FileNode.write?] at hw
    | error node =>
      rcases follow_error hf with rfl | rfl
      · obtain ⟨p, n, hm⟩ := exists_make?_of_follow ht hf
        refine ⟨last, above, p, n, rfl, hm, fun hl => ?_, hn, hd⟩
        rw [look_of_follow_absent ht hf hm] at hl
        cases hl
      · simp [hf, under, FileNode.write?] at hw

/-- What can be written is found afterwards. -/
theorem find_replace_self {m : Machine} (ht : m.IsTree) {path t : String}
    (h : ((m.find path).write? t).isSome) : (m.replace path (.text t)).find path = .text t := by
  obtain ⟨last, above, p, n, he, hm, hl, hn, hd⟩ := exists_make?_of_write? ht h
  have hlast : ¬ last = ".." := by
    rintro rfl
    simp [isName] at hn
  have hf : (n.put (last :: p) (.text t)).follow [] above = .ok p := by
    refine follow_of_directories (fun x hx => ?_) (follow_of_make? hm).1
    rw [look_put_of_ne _ _ (fun e => by rw [e] at hx; exact hl hx)]
    exact hx
  have hr : m.replace path (.text t) = n.put (last :: p) (.text t) := by
    simp [replace, he, hm, hlast]
  have he' : (n.put (last :: p) (.text t)).ends path = some (last, above) := by
    rw [← he, ends, ends, directory_put, directory_of_make? hm]
  rw [hr, find, he']
  simp [hf, under, hlast, fitting, hn, hd, look_put_self]

end Machine

end AdminConsole.CommandLine
