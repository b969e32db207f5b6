import LineEcho.Proofs.Config.Bounds
import LineEcho.Proofs.Config.Discovery
import LineEcho.Proofs.Files.Directories

/-!
# Giving a project its configuration

A project is given the default configuration by making the directories on the way and then writing
the file.  The file is new, whatever else there is stays, and the project is found from then on,
unless the path of the project goes up out of a directory that had to be made for it.
-/

namespace LineEcho

namespace FileSystem

variable {fileSystem : FileSystem}

theorem startOf_join (fileSystem : FileSystem) (path : String) {name : String}
    (isName : IsName name) : fileSystem.startOf (join path name) = fileSystem.startOf path := by
  have noSlash : name.toList.head? ≠ some '/' :=
    fun slash => isName.plain (List.mem_of_mem_head? slash)
  have head_iff : (join path name).toList.head? = some '/' ↔ path.toList.head? = some '/' := by
    by_cases empty : path = ""
    · subst empty
      have join_eq : join "" name = name := by simp [join]
      rw [join_eq]
      exact ⟨fun slash => absurd slash noSlash, nofun⟩
    · obtain ⟨rest, join_eq⟩ := exists_join_eq path name
      have nonempty : path.toList ≠ [] := fun nil => empty (String.toList_eq_nil_iff.1 nil)
      rw [join_eq, String.toList_append, List.head?_append, List.head?_eq_some_head nonempty]
      rfl
  unfold startOf
  simp only [head_iff]

end FileSystem

namespace Config

open FileSystem (longestPath Destination join namesOf)

variable {fileSystem before made : FileSystem} {path : String}

theorem startOf_projectFile (fileSystem : FileSystem) (path : String) :
    fileSystem.startOf (projectFile path) = fileSystem.startOf path := by
  rw [projectFile, FileSystem.startOf_join _ _ isName_fileName,
    FileSystem.startOf_join _ _ isName_projectDirectory]

/-- The names of the file are those of the project with two more. -/
theorem namesOf_projectFile (path : String) :
    ∃ base, namesOf (projectFile path) = base ++ [projectDirectory] ++ [fileName] ∧
      (namesOf path = base ∨ namesOf path = base ++ [""]) := by
  obtain ⟨base, inner_eq, base_eq⟩ :=
    FileSystem.namesOf_join path isName_projectDirectory.plain
  obtain ⟨inner, file_eq, inner_cases⟩ :=
    FileSystem.namesOf_join (join path projectDirectory) isName_fileName.plain
  refine ⟨base, ?_, base_eq⟩
  rcases inner_cases with same | same
  · rw [projectFile, file_eq, ← same, inner_eq]
  · rw [inner_eq] at same
    have last := List.append_inj_right' same rfl
    contradiction

/-- Where the file of a project goes: the names of the project lead to a directory, and the file to
its place in there. -/
structure Leads (made : FileSystem) (path : String)
    (destination : Destination made (projectFile path)) (base : List String) (place : Location) :
    Prop where
  names_cases : namesOf path = base ∨ namesOf path = base ++ [""]
  outer_eq : destination.outer = base ++ [projectDirectory]
  name_eq : destination.name = fileName
  followed : base.foldlM made.follow (made.startOf path) = .ok place
  isDirectory : made.tree.isDirectory place = true
  directory_eq : destination.directory = projectDirectory :: place
  location_eq : destination.location = projectPlace place

theorem exists_leads (destination : Destination made (projectFile path)) :
    ∃ base place, Leads made path destination base place := by
  obtain ⟨base, names_eq, names_cases⟩ := namesOf_projectFile path
  have split_eq := destination.namesOf_eq.symm.trans names_eq
  have outer_eq := List.append_inj_left' split_eq rfl
  have name_eq : destination.name = fileName :=
    List.singleton_inj.1 (List.append_inj_right' split_eq rfl)
  have followed := destination.followed
  rw [outer_eq, startOf_projectFile, foldlM_append_eq_ok_iff] at followed
  obtain ⟨place, followed, entered⟩ := followed
  rw [foldlM_singleton_eq] at entered
  obtain ⟨named, -⟩ := FileSystem.follow_eq_ok_iff.1 entered
  have isDirectory := FileSystem.isDirectory_of_nameIn named
  have directory_eq : destination.directory = projectDirectory :: place := by
    rw [FileSystem.nameIn_of_isName isDirectory isName_projectDirectory] at named
    exact (Except.ok.inj named).symm
  have location_eq : destination.location = projectPlace place := by
    have named := destination.named
    have inner := FileSystem.isDirectory_of_nameIn named
    rw [name_eq, FileSystem.nameIn_of_isName inner isName_fileName, directory_eq] at named
    exact (Except.ok.inj named).symm
  exact ⟨base, place, names_cases, outer_eq, name_eq, followed, isDirectory, directory_eq,
    location_eq⟩

section Leads

variable {destination : Destination made (projectFile path)} {base : List String}
  {place : Location}

/-- Wherever the project's path goes up, so do the names on the way to the file, and only there. -/
theorem Leads.canClimb (leads : Leads made path destination base place) {start : Location}
    (climbs : before.CanClimb start (namesOf path)) : before.CanClimb start destination.outer := by
  have climbsBase : before.CanClimb start base := by
    rcases leads.names_cases with names_eq | names_eq
    · exact names_eq ▸ climbs
    · rw [names_eq] at climbs
      exact climbs.of_append
  rw [leads.outer_eq]
  exact climbsBase.append (by decide)

/-- Nothing was in the place of the file if the path did not lead to anything. -/
theorem Leads.get?_eq_none (leads : Leads made path destination base place)
    (sound : before.IsSound) (adds : FileSystem.AddsDirectories before made)
    (climbs : before.CanClimb (before.startOf path) (namesOf path))
    (missing : before.exists? (projectFile path) = false) :
    before.tree.get? (projectPlace place) = none := by
  cases there : before.tree.get? (projectPlace place) with
  | none => rfl
  | some entry =>
    have present : (before.tree.get? (projectPlace place)).isSome = true := by rw [there]; rfl
    have isDirectory := sound.outer fileName (projectDirectory :: place) present
    have start_eq : made.startOf (projectFile path) = before.startOf path := by
      rw [startOf_projectFile, FileSystem.startOf, FileSystem.startOf, adds.working_eq]
    have start : (before.tree.get? (before.startOf path)).isSome = true := by
      unfold FileSystem.startOf
      split
      · rfl
      · exact FileTree.isSome_of_isDirectory sound.working
    have followed := destination.followed
    rw [start_eq, leads.directory_eq] at followed
    have before_followed := adds.foldlM_follow_of_present sound (leads.canClimb climbs) start
      followed (FileTree.isSome_of_isDirectory isDirectory)
    have located : before.locate (projectFile path) = .ok (projectPlace place) := by
      rw [FileSystem.locate_eq_ok_iff, destination.namesOf_eq, foldlM_append_eq_ok_iff,
        startOf_projectFile, leads.name_eq]
      refine ⟨destination.checked, _, before_followed, ?_⟩
      rw [foldlM_singleton_eq, FileSystem.follow_eq_ok_iff]
      exact ⟨FileSystem.nameIn_of_isName isDirectory isName_fileName, present⟩
    rw [FileSystem.exists?_iff.2 ⟨_, located⟩] at missing
    contradiction

theorem Leads.isSound (leads : Leads made path destination base place) (sound : made.IsSound)
    (content : Bytes) : (made.withFile destination.location content).IsSound := by
  have inner := FileSystem.isDirectory_of_nameIn destination.named
  have free := destination.free
  rw [leads.directory_eq] at inner
  rw [leads.location_eq] at free ⊢
  exact sound.withEntry inner isName_fileName free (.file content)

theorem Leads.locate_path (leads : Leads made path destination base place) (nonempty : path ≠ "")
    (content : Bytes) :
    (made.withFile destination.location content).locate path = .ok place := by
  have grown := destination.extends_withFile content
  have followed := grown.foldlM_follow leads.followed
  have isDirectory := grown.isDirectory place leads.isDirectory
  have stays : (made.withFile destination.location content).follow place "" = .ok place :=
    FileSystem.follow_eq_ok_iff.2
      ⟨by simp [FileSystem.nameIn, isDirectory], FileTree.isSome_of_isDirectory isDirectory⟩
  have checked : FileSystem.checkPath path = .ok () :=
    FileSystem.checkPath_of_join (FileSystem.checkPath_of_join destination.checked
      (FileSystem.join_ne_empty nonempty _)) nonempty
  rw [FileSystem.locate_eq_ok_iff]
  refine ⟨checked, ?_⟩
  rcases leads.names_cases with names_eq | names_eq
  · rw [names_eq]
    exact followed
  · rw [names_eq, foldlM_append_eq_ok_iff]
    exact ⟨place, followed, (foldlM_singleton_eq _ _ _).trans stays⟩

end Leads

/-! ### What is written -/

/-- The text of the default configuration. -/
def defaultText : String :=
  String.ofList ((default : Config).document fits_default)

/-- The default configuration is saved wherever a file can be written. -/
theorem save_default_cases {made written : FileSystem} {file : String}
    (saved : save default file made = .ok written) :
    ∃ destination : Destination made file,
      written = made.withFile destination.location (Bytes.ofText defaultText) := by
  rw [save, toToml?_of_fits default fits_default] at saved
  dsimp only at saved
  split at saved
  · rename_i after success
    obtain ⟨destination⟩ := FileSystem.IsWritable.destination ⟨_, _, success⟩
    rw [destination.write_eq] at success
    cases success
    exact ⟨destination, (Except.ok.inj saved).symm⟩
  · contradiction

theorem load_withFile {made : FileSystem} {file : String} (destination : Destination made file)
    {config : Config} (fits : config.Fits) (valid : config.validate = .ok ()) :
    load (made.withFile destination.location
        (Bytes.ofText (String.ofList (config.document fits)))) file = .ok config := by
  refine load_eq_iff.2 (.valid (destination.readText_withFile _) ?_ valid)
  rw [String.toList_ofList, ofToml_document]

/-- Giving a project its configuration fails when there is one, and otherwise leaves the tree with
the directories that were made, or with the file besides. -/
theorem initProject_cases (path : String) (before : FileSystem) :
    before.exists? (projectFile path) = true ∧
        initProject path before =
          (before, .error (.config "Project configuration already exists")) ∨
      before.exists? (projectFile path) = false ∧
        let made := (before.makeDirectories (join path projectDirectory)).1
        (∃ error, initProject path before = (made, .error error)) ∨
          ∃ written, save default (projectFile path) made = .ok written ∧
            initProject path before = (written, .ok (projectFile path)) := by
  unfold initProject
  cases there : before.exists? (projectFile path) with
  | true => exact .inl ⟨rfl, if_pos rfl⟩
  | false =>
    refine .inr ⟨rfl, ?_⟩
    simp only [Bool.false_eq_true, if_false]
    obtain ⟨made, outcome⟩ := before.makeDirectories (join path projectDirectory)
    cases outcome with
    | error fault => exact .inl ⟨_, rfl⟩
    | ok done =>
      cases saved : save default (projectFile path) made with
      | error error =>
        simp only [saved]
        exact .inl ⟨_, rfl⟩
      | ok written => exact .inr ⟨written, rfl, by simp only [saved]⟩

/-- A project that has been given its configuration has the default one, written to its file. -/
theorem exists_destination_of_initProject {after : FileSystem} {file : String}
    (result : initProject path before = (after, .ok file)) :
    ∃ (made : FileSystem) (destination : Destination made file),
      after = made.withFile destination.location (Bytes.ofText defaultText) := by
  obtain ⟨-, failed⟩ | ⟨-, ⟨error, failed⟩ | ⟨written, saved, done⟩⟩ :=
    initProject_cases path before
  · cases result.symm.trans failed
  · cases result.symm.trans failed
  · cases result.symm.trans done
    exact ⟨_, save_default_cases saved⟩

/-- What has become of a tree in which a project has been given its configuration. -/
structure IsFounded (before after : FileSystem) (path file : String) (place : Location) : Prop where
  file_eq : file = projectFile path
  located : after.locate file = .ok (projectPlace place)
  project : path ≠ "" → after.locate path = .ok place
  others : ∀ other content, other ≠ projectPlace place →
    (after.tree.get? other = some (.file content) ↔ before.tree.get? other = some (.file content))
  fresh : before.CanClimb (before.startOf path) (namesOf path) →
    before.tree.get? (projectPlace place) = none
  loads : load after file = .ok default
  found : ∀ inner, after.tree.isDirectory inner = true → place <:+ inner →
    (∀ other, other <:+ inner → HasProject after other → other <:+ place) →
    (projectFile (Location.path place)).utf8ByteSize ≤ longestPath →
    findProject after inner = some (projectFile (Location.path place)) ∧
      after.locate (projectFile (Location.path place)) = .ok (projectPlace place)
  again : initProject path after =
    (after, .error (.config "Project configuration already exists"))

theorem initProject_of_located {after : FileSystem} {location : Location}
    (located : after.locate (projectFile path) = .ok location) :
    initProject path after = (after, .error (.config "Project configuration already exists")) := by
  unfold initProject
  exact if_pos (FileSystem.exists?_iff.2 ⟨location, located⟩)

theorem Leads.isFounded {destination : Destination made (projectFile path)} {base : List String}
    {place : Location} (leads : Leads made path destination base place) (sound : before.IsSound)
    (adds : FileSystem.AddsDirectories before made) (madeSound : made.IsSound)
    (missing : before.exists? (projectFile path) = false) :
    IsFounded before (made.withFile destination.location (Bytes.ofText defaultText)) path
      (projectFile path) place := by
  let after := made.withFile destination.location (Bytes.ofText defaultText)
  have afterSound : after.IsSound := leads.isSound madeSound _
  have located : after.locate (projectFile path) = .ok (projectPlace place) :=
    leads.location_eq ▸ destination.locate_withFile _
  have there : after.tree.get? (projectPlace place) =
      some (.file (Bytes.ofText defaultText)) := by
    rw [← leads.location_eq, destination.get?_withFile, if_pos rfl]
  have present : (after.tree.get? (projectPlace place)).isSome = true := by rw [there]; rfl
  refine ⟨rfl, located, fun nonempty => leads.locate_path nonempty _, ?_,
    fun climbs => leads.get?_eq_none sound adds climbs missing,
    load_withFile destination fits_default validate_default, ?_, initProject_of_located located⟩
  · intro other content different
    rw [destination.get?_withFile, leads.location_eq, if_neg different]
    exact adds.file_iff
  · intro inner isDirectory around nearest short
    have names := afterSound.names (FileTree.isSome_of_isDirectory isDirectory)
    have placeNames : ∀ name ∈ place, IsName name := fun name member =>
      names name (around.mem member)
    refine ⟨findProject_of_isNearest afterSound names ⟨around, ⟨present, short⟩, nearest⟩, ?_⟩
    rw [projectFile_path placeNames] at short ⊢
    exact (afterSound.locate_path (List.cons_ne_nil _ _) (names_projectPlace placeNames)).2
      ⟨short, rfl, present⟩

/-- **Projects and their configurations.**  In a sound tree, what is found for a directory is the
file of the nearest project, looking outwards from the directory itself, and nothing is found if
there is no such file around.  When a project cannot be given its configuration, no file is created
and none is changed.  When it is, the file is in its place in the directory that the path leads to,
where nothing has been before as long as the path goes up only out of directories that were there.
All other files stay as they were.  The file loads as the default, it is found for this directory
and for each one inside of it that has no nearer project, and giving the project its configuration
once more fails and changes nothing. -/
theorem initProject_agrees_with_discovery {fileSystem : FileSystem} (sound : fileSystem.IsSound)
    (path : String) :
    (∀ place, fileSystem.tree.isDirectory place = true →
      (∀ file, findProject fileSystem place = some file ↔
        ∃ outer, IsNearest fileSystem place outer ∧ file = projectFile (Location.path outer)) ∧
      (findProject fileSystem place = none ↔
        ∀ outer, outer <:+ place → ¬HasProject fileSystem outer)) ∧
    match initProject path fileSystem with
    | (after, .ok file) => ∃ place, IsFounded fileSystem after path file place
    | (after, .error _) => ∀ other content,
      after.tree.get? other = some (.file content) ↔
        fileSystem.tree.get? other = some (.file content) := by
  constructor
  · intro place isDirectory
    have names := sound.names (FileTree.isSome_of_isDirectory isDirectory)
    exact ⟨fun file => findProject_eq_some_iff sound names, findProject_eq_none_iff sound names⟩
  · obtain ⟨-, result⟩ | ⟨missing, ⟨error, result⟩ | ⟨written, saved, result⟩⟩ :=
      initProject_cases path fileSystem
    · rw [result]
      exact fun _ _ => Iff.rfl
    · rw [result]
      exact fun _ _ => (FileSystem.addsDirectories_makeDirectories _ fileSystem).file_iff
    · rw [result]
      obtain ⟨destination, rfl⟩ := save_default_cases saved
      obtain ⟨base, place, leads⟩ := exists_leads destination
      exact ⟨place, leads.isFounded sound (FileSystem.addsDirectories_makeDirectories _ _)
        (sound.makeDirectories _) missing⟩

theorem isSound_empty : (default : FileSystem).IsSound where
  outer := nofun
  isName := nofun
  working := rfl

/-- In an empty tree a project is given its configuration and found by it. -/
theorem initProject_agrees_with_discovery_empty :
    (default : FileSystem).IsSound ∧
      ∃ after, initProject "p" default = (after, .ok "p/.echoline/config.toml") ∧
        (default : FileSystem).CanClimb [] ["p"] ∧
        (default : FileSystem).tree.get? (projectPlace ["p"]) = none ∧
        load after "p/.echoline/config.toml" = .ok default ∧
        findProject after ["p"] = some "/p/.echoline/config.toml" := by
  obtain ⟨after, result, located, isDirectory⟩ :
      ∃ after, initProject "p" default = (after, .ok "p/.echoline/config.toml") ∧
        after.locate "p" = .ok ["p"] ∧ after.tree.isDirectory ["p"] = true :=
    ⟨_, Prod.ext rfl rfl, rfl, rfl⟩
  have ⟨_, founds⟩ := initProject_agrees_with_discovery isSound_empty "p"
  rw [result] at founds
  obtain ⟨place, founded⟩ := founds
  obtain rfl : place = ["p"] :=
    Except.ok.inj ((founded.project (by decide)).symm.trans located)
  have climbs : (default : FileSystem).CanClimb [] ["p"] := by
    intro outer rest names_eq
    exact absurd (names_eq ▸ List.mem_append_right outer List.mem_cons_self :
      ".." ∈ ["p"]) (by decide)
  have found := founded.found ["p"] isDirectory (List.suffix_refl _) (fun _ around _ => around)
    (by decide)
  exact ⟨isSound_empty, after, result, climbs, founded.fresh climbs, founded.loads, found.1⟩

/-- A project `y` with a configuration that consists of a comment sign. -/
def commented : FileSystem :=
  (((default : FileSystem).withEntry ["y"] .directory).withEntry [projectDirectory, "y"]
    .directory).withEntry (projectPlace ["y"]) (.file [0x23])

theorem isSound_commented : commented.IsSound := by
  have isName : IsName "y" := by constructor <;> decide
  exact ((isSound_empty.withEntry rfl isName rfl .directory).withEntry rfl isName_projectDirectory
    rfl .directory).withEntry rfl isName_fileName rfl _

theorem defaultText_ne : Bytes.ofText defaultText ≠ [0x23] := by
  intro same
  have text_eq : defaultText = "#" := by
    have read := Bytes.text?_ofText defaultText
    rw [same] at read
    exact (Option.some.inj read).symm
  have first : (default : Config).document fits_default = ['#'] := by
    rw [← String.toList_ofList (l := document default fits_default)]
    exact congrArg String.toList text_eq
  have head : ((default : Config).document fits_default).head? = some 'l' := rfl
  rw [first] at head
  exact absurd head (by decide)

/-- A path that goes up out of a directory that is missing leads to a project that has a
configuration, but this is not noticed, and the file is overwritten. -/
theorem initProject_overwrites :
    commented.IsSound ∧
      commented.tree.get? (projectPlace ["y"]) = some (.file [0x23]) ∧
      ∃ after, initProject "x/../y" commented = (after, .ok "x/../y/.echoline/config.toml") ∧
        after.tree.get? (projectPlace ["y"]) ≠ some (.file [0x23]) := by
  obtain ⟨after, result, located⟩ :
      ∃ after, initProject "x/../y" commented = (after, .ok "x/../y/.echoline/config.toml") ∧
        after.locate "x/../y/.echoline/config.toml" = .ok (projectPlace ["y"]) :=
    ⟨_, Prod.ext rfl rfl, rfl⟩
  refine ⟨isSound_commented, rfl, after, result, ?_⟩
  obtain ⟨made, destination, rfl⟩ := exists_destination_of_initProject result
  have location_eq : destination.location = projectPlace ["y"] :=
    Except.ok.inj ((destination.locate_withFile _).symm.trans located)
  rw [destination.get?_withFile, if_pos location_eq.symm]
  exact fun same => defaultText_ne (Entry.file.inj (Option.some.inj same))

end Config

end LineEcho
