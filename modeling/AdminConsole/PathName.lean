/-!
# Names of files

Paths are taken apart at slashes; empty parts and single dots mean nothing, and two dots lead out of
a directory. Which place a path leads to is for the machine to say, because two dots lead out of the
directory that is really there.
-/

namespace AdminConsole.PathName

/-- The parts of a path behind those in `done`, last one first, given the characters of the part
under way, last one first. Empty parts and single dots are left out. -/
def partsFrom (done : List String) (part : List Char) : List Char → List String
  | [] => withPart
  | c :: r => if c = '/' then partsFrom withPart [] r else partsFrom done (c :: part) r
where
  /-- The parts with the one that has just ended. -/
  withPart : List String :=
    if part = [] ∨ part = ['.'] then done else String.ofList part.reverse :: done

/-- The parts of a path, last one first. -/
def parts (path : String) : List String := partsFrom [] [] path.toList

/-- The path from the root that has these parts, last one first. -/
def ofParts (ps : List String) : String := String.join (ps.reverse.map ("/" ++ ·))

/-- A path that starts at the root. -/
def isAbsolute (path : String) : Bool := path.toList.head? == some '/'

/-- The path ends in the name of something, and not in the parent of something. -/
def isNamed (path : String) : Bool :=
  match parts path with
  | [] => false
  | last :: _ => last != ".."

/-- The path can only be that of a directory, whatever is there: its last part is empty or made of
dots. -/
def isOfDirectory (path : String) : Bool :=
  let last := (path.toList.reverse.takeWhile (· != '/')).reverse
  last == [] || last == ['.'] || last == ['.', '.']

/-- The parts of a path from the root, last one first, given the directory that a relative path
starts from. -/
def partsIn (directory path : String) : List String :=
  if isAbsolute path then parts path else parts path ++ parts directory

/-- The path of something in a directory. -/
def join (directory name : String) : String :=
  if directory.toList.getLast? = some '/' then directory ++ name else directory ++ "/" ++ name

/-- A directory and those it lies in, the innermost first. -/
def ancestors (directory : String) : List String :=
  let ps := parts directory
  (List.range (ps.length + 1)).map fun n => ofParts (ps.drop n)

end AdminConsole.PathName
