/-!
# Paths and addresses

The path of a request decides what becomes of it by its part before the first `?` or `#`
(`Path.cut`). The address a request goes to is a base address without its trailing slashes and the
path, with one slash between them.
-/

namespace AdminConsole

namespace Path

/-- The path without query and fragment. -/
def cutChars : List Char → List Char := List.takeWhile fun c => c != '?' && c != '#'

/-- The path without query and fragment. -/
def cut (path : String) : String := String.ofList (cutChars path.toList)

/-- Whether a path begins with a text. -/
def begins (start path : String) : Bool := start.toList.isPrefixOf path.toList

end Path

namespace Address

/-- A base address without its trailing slashes. -/
def base (address : String) : String :=
  String.ofList (address.toList.reverse.dropWhile (· == '/')).reverse

/-- The address of a path below one that no slash is behind. -/
def below (address path : String) : String :=
  if Path.begins "/" path then address ++ path else address ++ "/" ++ path

/-- The address of a path below a base address. -/
def join (address path : String) : String := below (base address) path

end Address

end AdminConsole
