import LineEcho.Job
import LineEcho.Live.Faults

/-!
# The files that a command line is about

Before a command line is carried out, what stands along the paths that it can touch is copied into a
tree. Afterwards the files that have come about are written.
-/

namespace LineEcho.Live

/-- The beginnings of a path, one for each name, up to the path itself. -/
def beginnings (path : String) : List String :=
  let names := FileSystem.namesOf path
  ((List.range names.length).map (fun index => "/".intercalate (names.take (index + 1)))).filter
    (fun beginning => !beginning.isEmpty)

/-- Copies what stands at a path, if anything does. -/
def copy (files : FileSystem) (path : String) : IO FileSystem := do
  match ← attempt (IO.FS.readBinFile path) with
  | .ok content => return (files.write path content.toList).toOption.getD files
  | .error fault =>
    return if fault.kind = .isADirectory then (files.makeDirectories path).1 else files

/-- Copies what stands along a path. -/
def copyAlong (files : FileSystem) (path : String) : IO FileSystem :=
  (beginnings path).foldlM copy files

/-- The project configurations that could apply to a place. -/
def projectFiles : Location → List String
  | [] => [Config.projectFile (Location.path [])]
  | name :: outer => Config.projectFile (Location.path (name :: outer)) :: projectFiles outer

/-- The paths that a command can touch. -/
def pathsOf : Command → List String
  | .serve _ => []
  | .send _ => []
  | .count file => [file]
  | .config .show => []
  | .config (.init directory) => [Config.projectFile directory]
  | .config .path => []
  | .version => []

/-- The working directory and the home of the user, and nothing else. -/
def surveyPlaces : IO FileSystem := do
  let home := (← IO.getEnv "HOME").getD "/"
  let place := (← IO.currentDir).toString
  let files ← copyAlong { tree := ⟨[]⟩, workingDirectory := [], home := home } place
  return (files.changeDirectory place).toOption.getD files

/-- The files that a command line is about. -/
def survey (invocation : Invocation) : IO FileSystem := do
  let files ← surveyPlaces
  let paths := Config.globalFile files :: projectFiles files.workingDirectory ++
    invocation.configFile.toList ++ pathsOf invocation.command
  paths.foldlM copyAlong files

/-- Writes the file of a path if it has come about. -/
def keep (before after : FileSystem) (path : String) : IO Unit := do
  match before.read path, after.read path with
  | .error _, .ok content =>
    IO.FS.createDirAll ("/".intercalate (FileSystem.namesOf path).dropLast)
    IO.FS.writeBinFile path ⟨content.toArray⟩
  | _, _ => return

end LineEcho.Live
