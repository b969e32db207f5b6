import LineEcho.Config.Layers
import LineEcho.Proofs.Files.Following

/-!
# Where the configuration of a project is looked for

The project of a directory is that of the nearest directory, itself or one around it, in which the
file of a configuration is there.
-/

namespace LineEcho.Config

open FileSystem (longestPath)

variable {fileSystem : FileSystem} {place outer : Location}

/-- Where the configuration of the project in a directory is kept. -/
def projectPlace (place : Location) : Location :=
  fileName :: projectDirectory :: place

theorem isName_projectDirectory : IsName projectDirectory := by
  constructor <;> decide

theorem isName_fileName : IsName fileName := by
  constructor <;> decide

theorem names_projectPlace (names : ∀ name ∈ place, IsName name) :
    ∀ name ∈ projectPlace place, IsName name :=
  List.forall_mem_cons.2
    ⟨isName_fileName, List.forall_mem_cons.2 ⟨isName_projectDirectory, names⟩⟩

theorem projectFile_path (names : ∀ name ∈ place, IsName name) :
    projectFile (Location.path place) = Location.path (projectPlace place) := by
  have inner := List.forall_mem_cons.2 ⟨isName_projectDirectory, names⟩
  rw [projectFile, Location.join_path names, Location.join_path inner, projectPlace]

/-- The project in a directory has a configuration, under a path that is not too long. -/
def HasProject (fileSystem : FileSystem) (place : Location) : Prop :=
  (fileSystem.tree.get? (projectPlace place)).isSome = true ∧
    (projectFile (Location.path place)).utf8ByteSize ≤ longestPath

theorem exists?_projectFile (sound : fileSystem.IsSound) (names : ∀ name ∈ place, IsName name) :
    fileSystem.exists? (projectFile (Location.path place)) = true ↔
      HasProject fileSystem place := by
  have inside : projectPlace place ≠ [] := List.cons_ne_nil _ _
  rw [HasProject, projectFile_path names, sound.exists?_path inside (names_projectPlace names),
    and_comm]

/-- Of the directories around a place, itself included, the nearest one whose project has a
configuration. -/
structure IsNearest (fileSystem : FileSystem) (place outer : Location) : Prop where
  around : outer <:+ place
  has : HasProject fileSystem outer
  nearest : ∀ other, other <:+ place → HasProject fileSystem other → other <:+ outer

theorem findProject_cons (fileSystem : FileSystem) (name : String) (outer : Location) :
    findProject fileSystem (name :: outer) =
      if fileSystem.exists? (projectFile (Location.path (name :: outer))) then
        some (projectFile (Location.path (name :: outer)))
      else findProject fileSystem outer :=
  rfl

/-- What is found is the file of the nearest project, if there is any. -/
theorem findProject_cases (sound : fileSystem.IsSound) (names : ∀ name ∈ place, IsName name) :
    (∃ outer, IsNearest fileSystem place outer ∧
        findProject fileSystem place = some (projectFile (Location.path outer))) ∨
      (∀ outer, outer <:+ place → ¬HasProject fileSystem outer) ∧
        findProject fileSystem place = none := by
  induction place with
  | nil =>
    have found_iff := exists?_projectFile sound names
    unfold findProject
    by_cases has : HasProject fileSystem []
    · left
      refine ⟨[], ⟨List.suffix_refl _, has, fun other around _ => around⟩, if_pos (found_iff.2 has)⟩
    · right
      refine ⟨fun outer around => ?_, if_neg (fun found => has (found_iff.1 found))⟩
      rwa [List.suffix_nil.1 around]
  | cons name rest ih =>
    have found_iff := exists?_projectFile sound names
    rw [findProject_cons]
    by_cases has : HasProject fileSystem (name :: rest)
    · rw [if_pos (found_iff.2 has)]
      exact .inl ⟨_, ⟨List.suffix_refl _, has, fun other around _ => around⟩, rfl⟩
    · rw [if_neg (fun found => has (found_iff.1 found))]
      obtain ⟨outer, nearest, found⟩ | ⟨nothing, found⟩ := ih (List.forall_mem_cons.1 names).2
      · left
        refine ⟨outer, ⟨nearest.around.trans (List.suffix_cons _ _), nearest.has, ?_⟩, found⟩
        intro other around hasOther
        rcases List.suffix_cons_iff.1 around with rfl | around
        · exact absurd hasOther has
        · exact nearest.nearest other around hasOther
      · right
        refine ⟨fun outer around => ?_, found⟩
        rcases List.suffix_cons_iff.1 around with rfl | around
        · exact has
        · exact nothing outer around

theorem IsNearest.unique {first second : Location} (nearest : IsNearest fileSystem place first)
    (other : IsNearest fileSystem place second) : first = second := by
  have inner := other.nearest first nearest.around nearest.has
  have outer := nearest.nearest second other.around other.has
  exact inner.eq_of_length (Nat.le_antisymm inner.length_le outer.length_le)

theorem findProject_of_isNearest (sound : fileSystem.IsSound)
    (names : ∀ name ∈ place, IsName name) (nearest : IsNearest fileSystem place outer) :
    findProject fileSystem place = some (projectFile (Location.path outer)) := by
  obtain ⟨other, otherNearest, found⟩ | ⟨nothing, -⟩ := findProject_cases sound names
  · rw [found, nearest.unique otherNearest]
  · exact absurd nearest.has (nothing outer nearest.around)

theorem findProject_eq_some_iff (sound : fileSystem.IsSound)
    (names : ∀ name ∈ place, IsName name) {file : String} :
    findProject fileSystem place = some file ↔
      ∃ outer, IsNearest fileSystem place outer ∧ file = projectFile (Location.path outer) := by
  constructor
  · intro found
    obtain ⟨outer, nearest, same⟩ | ⟨-, nothing⟩ := findProject_cases sound names
    · exact ⟨outer, nearest, Option.some.inj (found.symm.trans same)⟩
    · cases found.symm.trans nothing
  · rintro ⟨outer, nearest, rfl⟩
    exact findProject_of_isNearest sound names nearest

theorem findProject_eq_none_iff (sound : fileSystem.IsSound)
    (names : ∀ name ∈ place, IsName name) :
    findProject fileSystem place = none ↔
      ∀ outer, outer <:+ place → ¬HasProject fileSystem outer := by
  obtain ⟨outer, nearest, found⟩ | ⟨nothing, found⟩ := findProject_cases sound names
  · rw [found]
    exact ⟨nofun, fun nothing => absurd nearest.has (nothing outer nearest.around)⟩
  · exact ⟨fun _ => nothing, fun _ => found⟩

end LineEcho.Config
