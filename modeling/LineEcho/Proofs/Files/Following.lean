import LineEcho.Proofs.Files.Paths
import LineEcho.Proofs.Outcome

/-!
# Following paths

Each name of a path leads on from a directory that is there.  Where a path leads does not change as
long as everything stays and directories stay directories.  In a sound tree everything stands in a
directory under a proper name, so the path of a place from the root leads to it if anything is
there.
-/

namespace LineEcho

namespace FileTree

theorem isDirectory_iff {tree : FileTree} {place : Location} :
    tree.isDirectory place = true ↔ tree.get? place = some .directory :=
  beq_iff_eq

theorem isSome_of_isDirectory {tree : FileTree} {place : Location}
    (isDirectory : tree.isDirectory place = true) : (tree.get? place).isSome = true := by
  rw [isDirectory_iff.1 isDirectory]
  rfl

end FileTree

namespace FileSystem

variable {fileSystem before after : FileSystem} {directory location place : Location}
  {name : String}

theorem isDirectory_of_nameIn (named : fileSystem.nameIn directory name = .ok location) :
    fileSystem.tree.isDirectory directory = true := by
  unfold nameIn at named
  split at named
  · contradiction
  · rename_i isDirectory
    simpa using isDirectory

/-- A name leads to the directory itself, out of it, or to a place in it. -/
theorem nameIn_cases (named : fileSystem.nameIn directory name = .ok location) :
    location = directory ∨ name = ".." ∧ location = directory.tail ∨
      name ≠ "" ∧ isDots name = false ∧ name.utf8ByteSize ≤ longestName ∧
        location = name :: directory := by
  have isDirectory := isDirectory_of_nameIn named
  unfold nameIn at named
  rw [isDirectory] at named
  split at named
  · contradiction
  · split at named
    · cases named
      exact .inl rfl
    · rename_i ordinary
      obtain ⟨nonempty, noPoint⟩ := not_or.1 ordinary
      split at named
      · rename_i climbs
        cases named
        exact .inr (.inl ⟨climbs, rfl⟩)
      · rename_i stays
        split at named
        · contradiction
        · rename_i short
          cases named
          have notDots : isDots name = false := by simp [isDots, noPoint, stays]
          exact .inr (.inr ⟨nonempty, notDots, Nat.le_of_not_lt short, rfl⟩)

theorem nameIn_of_isName (isDirectory : fileSystem.tree.isDirectory directory = true)
    (isName : IsName name) : fileSystem.nameIn directory name = .ok (name :: directory) := by
  have notDots := isName.notDots
  simp only [isDots, Bool.or_eq_false_iff, beq_eq_false_iff_ne] at notDots
  simp [nameIn, isDirectory, isName.nonempty, notDots, Nat.not_lt.2 isName.short]

theorem follow_eq_ok_iff :
    fileSystem.follow directory name = .ok location ↔
      fileSystem.nameIn directory name = .ok location ∧
        (fileSystem.tree.get? location).isSome = true := by
  unfold follow
  constructor
  · intro followed
    obtain ⟨there, named, followed⟩ := of_bind_eq_ok followed
    split at followed
    · rename_i present
      cases followed
      exact ⟨named, present⟩
    · contradiction
  · rintro ⟨named, present⟩
    rw [named]
    exact if_pos present

theorem locate_eq_ok_iff {path : String} :
    fileSystem.locate path = .ok location ↔
      checkPath path = .ok () ∧
        (namesOf path).foldlM fileSystem.follow (fileSystem.startOf path) = .ok location := by
  unfold locate
  constructor
  · intro located
    obtain ⟨_, checked, followed⟩ := of_bind_eq_ok located
    exact ⟨checked, followed⟩
  · rintro ⟨checked, followed⟩
    rw [checked]
    exact followed

theorem exists?_iff {path : String} :
    fileSystem.exists? path = true ↔ ∃ location, fileSystem.locate path = .ok location := by
  unfold exists?
  cases fileSystem.locate path with
  | error fault => exact ⟨nofun, nofun⟩
  | ok location => exact ⟨fun _ => ⟨location, rfl⟩, fun _ => rfl⟩

/-! ### Trees that grow -/

/-- Everything that was there is there, and what was a directory is one. -/
structure Extends (before after : FileSystem) : Prop where
  isDirectory : ∀ place, before.tree.isDirectory place = true → after.tree.isDirectory place = true
  present : ∀ place, (before.tree.get? place).isSome = true → (after.tree.get? place).isSome = true

theorem Extends.nameIn (grown : Extends before after)
    (named : before.nameIn directory name = .ok location) :
    after.nameIn directory name = .ok location := by
  have isDirectory := isDirectory_of_nameIn named
  unfold FileSystem.nameIn at named ⊢
  rw [isDirectory] at named
  rw [grown.isDirectory directory isDirectory]
  exact named

theorem Extends.follow (grown : Extends before after)
    (followed : before.follow directory name = .ok location) :
    after.follow directory name = .ok location := by
  rw [follow_eq_ok_iff] at followed ⊢
  exact ⟨grown.nameIn followed.1, grown.present location followed.2⟩

/-- Names that led somewhere lead there still. -/
theorem Extends.foldlM_follow (grown : Extends before after) {names : List String}
    (followed : names.foldlM before.follow directory = .ok location) :
    names.foldlM after.follow directory = .ok location := by
  induction names generalizing directory with
  | nil => exact followed
  | cons name rest ih =>
    rw [List.foldlM_cons] at followed ⊢
    obtain ⟨next, reached, followed⟩ := of_bind_eq_ok followed
    rw [grown.follow reached]
    exact ih followed

/-! ### Sound trees -/

/-- Everything stands in a directory and under a name that it can have, and paths are followed from
a directory. -/
structure IsSound (fileSystem : FileSystem) : Prop where
  outer : ∀ name outer, (fileSystem.tree.get? (name :: outer)).isSome = true →
    fileSystem.tree.isDirectory outer = true
  isName : ∀ name outer, (fileSystem.tree.get? (name :: outer)).isSome = true → IsName name
  working : fileSystem.tree.isDirectory fileSystem.workingDirectory = true

namespace IsSound

theorem names (sound : fileSystem.IsSound) (present : (fileSystem.tree.get? place).isSome = true) :
    ∀ name ∈ place, IsName name := by
  induction place with
  | nil => exact nofun
  | cons name outer ih =>
    have around := FileTree.isSome_of_isDirectory (sound.outer name outer present)
    exact List.forall_mem_cons.2 ⟨sound.isName name outer present, ih around⟩

/-- Whatever is around something is there. -/
theorem isSome_of_suffix (sound : fileSystem.IsSound) {outer : Location} (around : outer <:+ place)
    (present : (fileSystem.tree.get? place).isSome = true) :
    (fileSystem.tree.get? outer).isSome = true := by
  induction place with
  | nil =>
    rw [List.suffix_nil.1 around]
    exact present
  | cons name rest ih =>
    rcases List.suffix_cons_iff.1 around with rfl | around
    · exact present
    · exact ih around (FileTree.isSome_of_isDirectory (sound.outer name rest present))

/-- The names of a place lead to it from the root if something is there, and nowhere otherwise. -/
theorem foldlM_follow_reverse (sound : fileSystem.IsSound)
    (names : ∀ name ∈ place, IsName name) :
    place.reverse.foldlM fileSystem.follow [] = .ok location ↔
      location = place ∧ (fileSystem.tree.get? place).isSome = true := by
  induction place generalizing location with
  | nil => exact ⟨fun same => ⟨(Except.ok.inj same).symm, rfl⟩, fun same => by rw [same.1]; rfl⟩
  | cons name outer ih =>
    obtain ⟨isName, names⟩ := List.forall_mem_cons.1 names
    rw [List.reverse_cons, foldlM_append_eq_ok_iff]
    simp only [foldlM_singleton_eq, follow_eq_ok_iff]
    constructor
    · rintro ⟨around, reached, named, present⟩
      obtain ⟨rfl, -⟩ := (ih names).1 reached
      rw [nameIn_of_isName (isDirectory_of_nameIn named) isName] at named
      cases named
      exact ⟨rfl, present⟩
    · rintro ⟨rfl, present⟩
      have isDirectory := sound.outer name outer present
      exact ⟨outer, (ih names).2 ⟨rfl, FileTree.isSome_of_isDirectory isDirectory⟩,
        nameIn_of_isName isDirectory isName, present⟩

/-- The path of a place leads to it if something is there, unless the path is too long. -/
theorem locate_path (sound : fileSystem.IsSound) (inside : place ≠ [])
    (names : ∀ name ∈ place, IsName name) :
    fileSystem.locate (Location.path place) = .ok location ↔
      (Location.path place).utf8ByteSize ≤ longestPath ∧ location = place ∧
        (fileSystem.tree.get? place).isSome = true := by
  have start_eq : fileSystem.startOf (Location.path place) = [] :=
    if_pos (Location.head?_path place)
  have root : fileSystem.follow [] "" = .ok [] := rfl
  have followed : ("" :: place.reverse).foldlM fileSystem.follow [] =
      place.reverse.foldlM fileSystem.follow [] := by
    rw [List.foldlM_cons, root]
    rfl
  rw [locate_eq_ok_iff, Location.checkPath_path names, Location.namesOf_path inside names, start_eq,
    followed, sound.foldlM_follow_reverse names]

theorem exists?_path (sound : fileSystem.IsSound) (inside : place ≠ [])
    (names : ∀ name ∈ place, IsName name) :
    fileSystem.exists? (Location.path place) = true ↔
      (Location.path place).utf8ByteSize ≤ longestPath ∧
        (fileSystem.tree.get? place).isSome = true := by
  rw [exists?_iff]
  constructor
  · rintro ⟨location, located⟩
    obtain ⟨short, -, present⟩ := (sound.locate_path inside names).1 located
    exact ⟨short, present⟩
  · rintro ⟨short, present⟩
    exact ⟨place, (sound.locate_path inside names).2 ⟨short, rfl, present⟩⟩

end IsSound

end FileSystem

end LineEcho
