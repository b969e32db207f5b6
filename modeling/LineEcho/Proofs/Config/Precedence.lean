import LineEcho.Execution
import LineEcho.Proofs.Config.Loading
import LineEcho.Proofs.Outcome

/-!
# Which configuration counts

A command line starts from one configuration: that of the file it names, or that of the last layer
that is there.  Every layer that is there has to load, so an earlier one that does not is reported
even if a later one would have replaced it.  From there each option that is given replaces its own
setting, and what comes out of that is validated once more before anything is bound or connected.
-/

namespace LineEcho

namespace ConfigLayers

variable {fileSystem : FileSystem}

/-- The layers that are there are loaded one after the other, and the last one stays. -/
theorem foldlM_loadLayer (paths : List String) (config : Config) :
    paths.foldlM (loadLayer fileSystem) config =
      ((paths.filter fileSystem.exists?).mapM (Config.load fileSystem)).map
        (fun configs => configs.getLast?.getD config) := by
  induction paths generalizing config with
  | nil => rfl
  | cons path rest ih =>
    rw [List.foldlM_cons, loadLayer]
    cases there : fileSystem.exists? path with
    | false =>
      rw [List.filter_cons_of_neg (by simp [there])]
      exact ih config
    | true =>
      rw [List.filter_cons_of_pos there, List.mapM_cons, if_pos rfl]
      cases Config.load fileSystem path with
      | error error => rfl
      | ok loaded =>
        have rest_eq := ih loaded
        simp only [bind, Except.bind, pure, Except.pure] at rest_eq ⊢
        rw [rest_eq]
        cases (rest.filter fileSystem.exists?).mapM (Config.load fileSystem) with
        | error error => rfl
        | ok configs =>
          cases configs with
          | nil => rfl
          | cons first others => simp [Except.map, List.getLast?_cons]

theorem validate_of_foldlM {paths : List String} {first last : Config}
    (valid : first.validate = .ok ())
    (loaded : paths.foldlM (loadLayer fileSystem) first = .ok last) : last.validate = .ok () := by
  refine holds_of_foldlM (fun config => config.validate = .ok ()) ?_ valid loaded
  intro path _ before after kept next
  unfold loadLayer at next
  split at next
  · exact Config.validate_of_load next
  · cases next
    exact kept

/-- The configuration of the layers needs no validation of its own. -/
theorem load_eq_foldlM (layers : ConfigLayers) :
    layers.load fileSystem =
      (layers.global.toList ++ layers.project.toList).foldlM (loadLayer fileSystem) default := by
  unfold load
  cases loaded : (layers.global.toList ++ layers.project.toList).foldlM (loadLayer fileSystem)
      default with
  | error error => rfl
  | ok config =>
    simp [bind, Except.bind, validate_of_foldlM Config.validate_default loaded]

theorem validate_of_load {layers : ConfigLayers} {config : Config}
    (loaded : layers.load fileSystem = .ok config) : config.validate = .ok () :=
  validate_of_foldlM Config.validate_default (layers.load_eq_foldlM ▸ loaded)

/-- What becomes of a layer, if its file is there. -/
def layer? (fileSystem : FileSystem) (path : Option String) : Option (Except Error Config) :=
  (path.filter fileSystem.exists?).map (Config.load fileSystem)

theorem layer?_of_exists {path : String} (there : fileSystem.exists? path = true) :
    layer? fileSystem (some path) = some (Config.load fileSystem path) := by
  rw [layer?, Option.filter_some, if_pos there, Option.map_some]

/-- What the layers come to: the error of the first one that does not load, or else the last one
that is there. -/
def resolve : Option (Except Error Config) → Option (Except Error Config) → Except Error Config
  | some (.error error), _ => .error error
  | _, some project => project
  | some (.ok global), none => .ok global
  | none, none => .ok default

theorem load_eq_resolve (layers : ConfigLayers) :
    layers.load fileSystem =
      resolve (layer? fileSystem layers.global) (layer? fileSystem layers.project) := by
  have filter_toList (path : Option String) :
      path.toList.filter fileSystem.exists? = (path.filter fileSystem.exists?).toList := by
    cases path with
    | none => rfl
    | some path =>
      rw [Option.toList_some, Option.filter_some]
      cases there : fileSystem.exists? path <;> simp [there]
  rw [load_eq_foldlM, foldlM_loadLayer, List.filter_append, filter_toList, filter_toList, layer?,
    layer?]
  cases layers.global.filter fileSystem.exists? with
  | none =>
    cases layers.project.filter fileSystem.exists? with
    | none => rfl
    | some project =>
      simp only [Option.toList_none, Option.toList_some, List.nil_append, List.mapM_cons,
        List.mapM_nil, Option.map_none, Option.map_some]
      cases Config.load fileSystem project <;> rfl
  | some global =>
    simp only [Option.toList_some, List.singleton_append, List.mapM_cons, Option.map_some]
    cases Config.load fileSystem global with
    | error error => rfl
    | ok config =>
      cases layers.project.filter fileSystem.exists? with
      | none => rfl
      | some project =>
        simp only [Option.toList_some, List.mapM_cons, List.mapM_nil, Option.map_some]
        cases Config.load fileSystem project <;> rfl

end ConfigLayers

/-! ### Options -/

namespace Job

end Job

namespace Invocation

variable {surroundings : Surroundings} {invocation : Invocation} {config : Config}

theorem attempt_of_error {error : Error}
    (failed : invocation.config surroundings.fileSystem = .error error) :
    invocation.attempt surroundings = .failed error surroundings.fileSystem := by
  simp [attempt, job, failed, Except.map]

theorem attempt_of_ok (based : invocation.config surroundings.fileSystem = .ok config) :
    invocation.attempt surroundings =
      (invocation.command.job config).perform invocation.format surroundings := by
  simp [attempt, job, based, Except.map]

end Invocation

/-- The command to serve with a buffer of 32 octets, by the configuration of a file or of the
layers. -/
def serving (configFile : Option String) : Invocation where
  isVerbose := false
  isQuiet := true
  configFile := configFile
  format := default
  command := .serve ⟨none, none, none, some 32, none⟩

end LineEcho
