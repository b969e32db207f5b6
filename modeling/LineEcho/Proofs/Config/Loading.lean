import LineEcho.Config.Layers
import LineEcho.Proofs.Files.Writing

/-!
# What a file loads as

A configuration is loaded in three steps: the file is read, its text is taken for a document of a
configuration, and this is validated.  The first step that fails says what is wrong.
`Config.LoadsAs` lists these outcomes, and `Config.load_eq_iff` that there are no others.
-/

namespace LineEcho.Config

theorem validate_default : (default : Config).validate = .ok () :=
  rfl

/-- What a file loads as: the fault by which it cannot be read, where its text is no document of a
configuration, what makes the configuration invalid, or the configuration. -/
inductive LoadsAs (fileSystem : FileSystem) (path : String) : Except Error Config → Prop where
  | unreadable {fault : Fault} (fails : fileSystem.readText path = .error fault) :
      LoadsAs fileSystem path
        (.error (.config ("Failed to read config file " ++ path ++ ": " ++ fault.text)))
  | malformed {text : String} {error : TomlError} (reads : fileSystem.readText path = .ok text)
      (fails : ofToml text.toList = .error error) :
      LoadsAs fileSystem path
        (.error (.config
          ("Failed to parse config file " ++ path ++ ": " ++ error.message text.toList)))
  | invalid {text : String} {config : Config} {error : Error}
      (reads : fileSystem.readText path = .ok text) (parses : ofToml text.toList = .ok config)
      (fails : config.validate = .error error) : LoadsAs fileSystem path (.error error)
  | valid {text : String} {config : Config} (reads : fileSystem.readText path = .ok text)
      (parses : ofToml text.toList = .ok config) (passes : config.validate = .ok ()) :
      LoadsAs fileSystem path (.ok config)

variable {fileSystem : FileSystem} {path text : String} {config : Config}

theorem load_eq_iff {outcome : Except Error Config} :
    load fileSystem path = outcome ↔ LoadsAs fileSystem path outcome := by
  constructor
  · rintro rfl
    unfold load
    split
    · exact .unreadable ‹_›
    · rename_i text reads
      split
      · exact .malformed reads ‹_›
      · rename_i config parses
        cases checked : config.validate with
        | error error => exact .invalid reads parses checked
        | ok _ => exact .valid reads parses checked
  · intro loads
    cases loads with
    | unreadable fails => simp only [load, fails]
    | malformed reads fails => simp only [load, reads, fails]
    | invalid reads parses fails => simp only [load, reads, parses, fails, bind, Except.bind]
    | valid reads parses passes => simp only [load, reads, parses, passes, bind, Except.bind]

/-- A document of a configuration loads as what comes of validating that. -/
theorem load_of_parses (reads : fileSystem.readText path = .ok text)
    (parses : ofToml text.toList = .ok config) :
    load fileSystem path = config.validate.map (fun _ => config) := by
  cases checked : config.validate with
  | error error => exact load_eq_iff.2 (.invalid reads parses checked)
  | ok _ => exact load_eq_iff.2 (.valid reads parses checked)

theorem validate_of_load (loaded : load fileSystem path = .ok config) :
    config.validate = .ok () := by
  cases load_eq_iff.1 loaded with
  | valid reads parses passes => exact passes

end LineEcho.Config
