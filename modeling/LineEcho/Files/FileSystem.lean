import LineEcho.Fault
import LineEcho.Files.Tree
import LineEcho.Text.Split

/-!
# Reading and writing files by their paths

A path is followed name by name from the root or from the working directory. On the way everything
has to be a directory, and a slash at the end asks for one. Operations that change something give
the file system afterwards.
-/

namespace LineEcho

/-- A tree of files, the directory from which paths are followed, and the path of the user's
home. -/
structure FileSystem where
  tree : FileTree
  workingDirectory : Location
  home : String
  deriving Repr, Inhabited

namespace FileSystem

/-- The longest name of a file, in octets. -/
def longestName : Nat := 255

def longestPath : Nat := 4095

/-- The names of a path. A slash at the start or at the end, or a second one, gives an empty
name. -/
def namesOf (path : String) : List String :=
  (Text.split '/' path.toList).map String.ofList

def join (path name : String) : String :=
  if path.isEmpty ∨ path.toList.getLast? = some '/' then path ++ name else path ++ "/" ++ name

def checkPath (path : String) : Except Fault Unit :=
  if path.toList.contains '\x00' then .error .nullInPath
  else if path.isEmpty then .error (.ofSystem .noEntry)
  else if longestPath < path.utf8ByteSize then .error (.ofSystem .nameTooLong)
  else .ok ()

variable (fileSystem : FileSystem)

def startOf (path : String) : Location :=
  if path.toList.head? = some '/' then [] else fileSystem.workingDirectory

/-- The place of a name in a directory, whether or not anything is there. -/
def nameIn (directory : Location) (name : String) : Except Fault Location :=
  if !fileSystem.tree.isDirectory directory then .error (.ofSystem .notADirectory)
  else if name = "" ∨ name = "." then .ok directory
  else if name = ".." then .ok directory.tail
  else if longestName < name.utf8ByteSize then .error (.ofSystem .nameTooLong)
  else .ok (name :: directory)

/-- Follows one name to something that is there. -/
def follow (directory : Location) (name : String) : Except Fault Location := do
  let location ← fileSystem.nameIn directory name
  if (fileSystem.tree.get? location).isSome then .ok location else .error (.ofSystem .noEntry)

/-- The place of a path to something that is there. -/
def locate (path : String) : Except Fault Location := do
  checkPath path
  (namesOf path).foldlM fileSystem.follow (fileSystem.startOf path)

def exists? (path : String) : Bool :=
  (fileSystem.locate path).toBool

/-- Opens a file for reading: its content, or the fault that reading will meet, because a directory
can be opened but not read. -/
def openFile (path : String) : Except Fault (Except Fault Bytes) := do
  let location ← fileSystem.locate path
  match fileSystem.tree.get? location with
  | some (.file content) => .ok (.ok content)
  | some .directory => .ok (.error (.ofSystem .isADirectory))
  | none => .error (.ofSystem .noEntry)

def read (path : String) : Except Fault Bytes := do
  (← fileSystem.openFile path)

def readText (path : String) : Except Fault String := do
  match Bytes.text? (← fileSystem.read path) with
  | some text => .ok text
  | none => .error .notText

/-- The names of a path without the empty ones at its end, and whether there were any. -/
def withoutSlashes (names : List String) : List String × Bool :=
  let kept := (names.reverse.dropWhile String.isEmpty).reverse
  (kept, kept.length < names.length)

/-- Whether a name leads to a directory that is there already. -/
def isDots (name : String) : Bool :=
  name == "." || name == ".."

/-- Writes a file, which is created if nothing is there. -/
def write (path : String) (content : Bytes) : Except Fault FileSystem := do
  checkPath path
  let (names, hasSlash) := withoutSlashes (namesOf path)
  match names.getLast? with
  | none => .error (.ofSystem .isADirectory)
  | some name =>
    let directory ← names.dropLast.foldlM fileSystem.follow (fileSystem.startOf path)
    let location ← if hasSlash ∨ isDots name then
        if fileSystem.tree.isDirectory directory then .error (.ofSystem .isADirectory)
        else .error (.ofSystem .notADirectory)
      else fileSystem.nameIn directory name
    if fileSystem.tree.isDirectory location then .error (.ofSystem .isADirectory)
    else .ok { fileSystem with tree := fileSystem.tree.put location (.file content) }

/-- Makes one directory, given the names on the way to it. -/
def makeDirectory (start : Location) (outer : List String) (name : String) :
    Except Fault FileSystem := do
  let directory ← outer.foldlM fileSystem.follow start
  let location ← fileSystem.nameIn directory name
  if isDots name ∨ (fileSystem.tree.get? location).isSome then .error (.ofSystem .alreadyExists)
  else .ok { fileSystem with tree := fileSystem.tree.put location .directory }

def leadsToDirectory (start : Location) (names : List String) : Bool :=
  match names.foldlM fileSystem.follow start with
  | .ok location => fileSystem.tree.isDirectory location
  | .error _ => false

end FileSystem

namespace FileSystem

/-- Makes the directory of a chain of names, innermost first, and those around it as far as they are
missing. -/
def makeChain (start : Location) : Location → FileSystem → FileSystem × Except Fault Unit
  | [], fileSystem => (fileSystem, .ok ())
  | name :: outer, fileSystem =>
    let settle (fileSystem : FileSystem) (fault : Fault) : FileSystem × Except Fault Unit :=
      if fileSystem.leadsToDirectory start (outer.reverse ++ [name]) then (fileSystem, .ok ())
      else (fileSystem, .error fault)
    match fileSystem.makeDirectory start outer.reverse name with
    | .ok made => (made, .ok ())
    | .error fault =>
      if fault.kind = .notFound then
        match makeChain start outer fileSystem with
        | (around, .error fault) => (around, .error fault)
        | (around, .ok ()) =>
          match around.makeDirectory start outer.reverse name with
          | .ok made => (made, .ok ())
          | .error fault => settle around fault
      else settle fileSystem fault

/-- The names of a path that say where it leads: without empty ones, and without single points but
for one in front. -/
def plainNames (path : String) : List String :=
  match namesOf path with
  | "." :: names => "." :: names.filter (fun name => name != "" && name != ".")
  | names => names.filter (fun name => name != "" && name != ".")

/-- Makes the directory of a path, and those around it as far as they are missing. -/
def makeDirectories (path : String) (fileSystem : FileSystem) : FileSystem × Except Fault Unit :=
  if path.isEmpty then (fileSystem, .ok ())
  else
    match checkPath path with
    | .error fault => (fileSystem, .error fault)
    | .ok () => makeChain (fileSystem.startOf path) (plainNames path).reverse fileSystem

def changeDirectory (path : String) (fileSystem : FileSystem) : Except Fault FileSystem := do
  let location ← fileSystem.locate path
  if fileSystem.tree.isDirectory location then .ok { fileSystem with workingDirectory := location }
  else .error (.ofSystem .notADirectory)

end FileSystem

end LineEcho
