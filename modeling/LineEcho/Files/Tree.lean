import LineEcho.Bytes

/-!
# Trees of directories and files

A place in a tree is the chain of names that leads to it. The innermost name stands first, so that
the directory around a place is the tail of its chain, and the root is the empty one.
-/

namespace LineEcho

/-- A place in a tree of files, innermost name first. -/
abbrev Location := List String

namespace Location

/-- The path of a place from the root. -/
def path (location : Location) : String :=
  "/" ++ "/".intercalate location.reverse

end Location

/-- What stands at a place. -/
inductive Entry
  | directory
  | file (content : Bytes)
  deriving DecidableEq, Repr

/-- A tree of files: what stands at each place other than the root. -/
structure FileTree where
  entries : List (Location × Entry)
  deriving Repr, Inhabited

namespace FileTree

/-- What stands at a place. The root is a directory. -/
def get? (tree : FileTree) : Location → Option Entry
  | [] => some .directory
  | name :: outer => tree.entries.lookup (name :: outer)

/-- The tree with something put at a place. -/
def put (tree : FileTree) (location : Location) (entry : Entry) : FileTree :=
  ⟨(location, entry) :: tree.entries.filter (fun other => other.1 != location)⟩

def isDirectory (tree : FileTree) (location : Location) : Bool :=
  tree.get? location == some .directory

end FileTree

end LineEcho
