import LineEcho.Config.OfToml
import LineEcho.Config.ToToml
import LineEcho.Files.FileSystem

/-!
# Where configurations are kept

A configuration is kept in a file. There may be one for the user and one for the project, which is
looked for in the working directory and in the directories around it. The later layer replaces the
earlier one as a whole, but both have to be readable and valid.
-/

namespace LineEcho

namespace Config

def projectDirectory : String := ".echoline"

/-- The name of the file of a configuration. -/
def fileName : String := "config.toml"

/-- The configuration of a file. It has to be valid. -/
def load (fileSystem : FileSystem) (path : String) : Except Error Config := do
  match fileSystem.readText path with
  | .error fault => .error (.config ("Failed to read config file " ++ path ++ ": " ++ fault.text))
  | .ok text =>
    match ofToml text.toList with
    | .error error =>
      .error (.config
        ("Failed to parse config file " ++ path ++ ": " ++ error.message text.toList))
    | .ok config => do
      config.validate
      .ok config

def save (config : Config) (path : String) (fileSystem : FileSystem) : Except Error FileSystem :=
  match config.toToml? with
  | none => .error (.config ("Failed to serialize config: " ++ unwritable))
  | some text =>
    match fileSystem.write path (Bytes.ofText text) with
    | .ok written => .ok written
    | .error fault =>
      .error (.config ("Failed to write config file " ++ path ++ ": " ++ fault.text))

/-- The file of a project's configuration, given the path of the project. -/
def projectFile (path : String) : String :=
  FileSystem.join (FileSystem.join path projectDirectory) fileName

/-- Gives a project the default configuration, unless it has one. The answer is the path of the
file. Directories that were made on the way stay, also after a failure. -/
def initProject (path : String) (fileSystem : FileSystem) : FileSystem × Except Error String :=
  if fileSystem.exists? (projectFile path) then
    (fileSystem, .error (.config "Project configuration already exists"))
  else
    match fileSystem.makeDirectories (FileSystem.join path projectDirectory) with
    | (made, .error fault) =>
      (made, .error (.config
        ("Failed to create " ++ projectDirectory ++ " directory: " ++ fault.text)))
    | (made, .ok ()) =>
      match save default (projectFile path) made with
      | .ok written => (written, .ok (projectFile path))
      | .error error => (made, .error error)

def globalFile (fileSystem : FileSystem) : String :=
  [".config", "echoline", fileName].foldl FileSystem.join fileSystem.home

/-- The file of the nearest project configuration, looking outwards from a place. -/
def findProject (fileSystem : FileSystem) : Location → Option String
  | [] =>
    let file := projectFile (Location.path [])
    if fileSystem.exists? file then some file else none
  | name :: outer =>
    let file := projectFile (Location.path (name :: outer))
    if fileSystem.exists? file then some file else findProject fileSystem outer

end Config

/-- The files in which configurations may be kept, the later one replacing the earlier one. -/
structure ConfigLayers where
  global : Option String
  project : Option String
  deriving DecidableEq, Repr

namespace ConfigLayers

/-- The layers for the user and the working directory. -/
def discover (fileSystem : FileSystem) : ConfigLayers where
  global := some (Config.globalFile fileSystem)
  project := Config.findProject fileSystem fileSystem.workingDirectory

/-- The configuration after one more layer, which may be missing. -/
def loadLayer (fileSystem : FileSystem) (config : Config) (path : String) : Except Error Config :=
  if fileSystem.exists? path then Config.load fileSystem path else .ok config

/-- The configuration of the layers, or the default one if there are none. -/
def load (fileSystem : FileSystem) (layers : ConfigLayers) : Except Error Config := do
  let config ← (layers.global.toList ++ layers.project.toList).foldlM (loadLayer fileSystem) default
  config.validate
  .ok config

end ConfigLayers

end LineEcho
