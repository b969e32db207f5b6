import LineEcho.Proofs.Bytes
import LineEcho.Proofs.Files.Following

/-!
# What has been written is there

Whether a path can be written does not depend on what is written, and reading it afterwards gives
just that.  The file takes no directory's place, so the path still leads where it led.
-/

namespace LineEcho

namespace FileTree

theorem lookup_filter_of_ne {location other : Location} (different : other ≠ location)
    (entries : List (Location × Entry)) :
    (entries.filter (fun entry => entry.1 != location)).lookup other = entries.lookup other := by
  induction entries with
  | nil => rfl
  | cons first rest ih =>
    by_cases replaced : first.1 = location
    · have passed : (other == first.1) = false := by simpa [replaced] using different
      rw [List.filter_cons_of_neg (by simp [replaced]), ih, List.lookup_cons, passed]
    · rw [List.filter_cons_of_pos (by simp [replaced]), List.lookup_cons, ih, List.lookup_cons]

theorem get?_put {location : Location} (inside : location ≠ []) (tree : FileTree) (entry : Entry)
    (other : Location) :
    (tree.put location entry).get? other =
      if other = location then some entry else tree.get? other := by
  cases other with
  | nil =>
    rw [if_neg (Ne.symm inside)]
    rfl
  | cons name outer =>
    simp only [get?, put, List.lookup_cons]
    by_cases same : name :: outer = location
    · rw [if_pos same, beq_iff_eq.2 same]
    · rw [if_neg same, beq_eq_false_iff_ne.2 same]
      exact lookup_filter_of_ne same tree.entries

end FileTree

namespace FileSystem

variable {fileSystem : FileSystem} {path : String}

/-- Where a path that can be written leads: to a name in a directory that is there, where there is
no directory of this name. -/
structure Destination (fileSystem : FileSystem) (path : String) where
  outer : List String
  name : String
  directory : Location
  location : Location
  checked : checkPath path = .ok ()
  names_eq : withoutSlashes (namesOf path) = (outer ++ [name], false)
  notDots : isDots name = false
  followed : outer.foldlM fileSystem.follow (fileSystem.startOf path) = .ok directory
  named : fileSystem.nameIn directory name = .ok location
  free : fileSystem.tree.isDirectory location = false

/-- A path that can be written, no matter with what. -/
def IsWritable (fileSystem : FileSystem) (path : String) : Prop :=
  ∃ content written, fileSystem.write path content = .ok written

/-- The file system after a file has been put at a place. -/
def withFile (fileSystem : FileSystem) (location : Location) (content : Bytes) : FileSystem :=
  { fileSystem with tree := fileSystem.tree.put location (.file content) }

theorem IsWritable.destination (writable : fileSystem.IsWritable path) :
    Nonempty (Destination fileSystem path) := by
  obtain ⟨content, written, success⟩ := writable
  unfold write at success
  obtain ⟨_, checked, success⟩ := of_bind_eq_ok success
  split at success
  rename_i names hasSlash names_eq
  split at success
  · contradiction
  · rename_i name last
    obtain ⟨directory, followed, success⟩ := of_bind_eq_ok success
    by_cases special : hasSlash = true ∨ isDots name = true
    · simp only [if_pos special] at success
      split at success <;> contradiction
    · simp only [if_neg special] at success
      obtain ⟨location, named, success⟩ := of_bind_eq_ok success
      split at success
      · contradiction
      · rename_i free
        obtain ⟨noSlash, notDots⟩ := not_or.1 special
        rw [Bool.not_eq_true] at noSlash notDots free
        obtain ⟨outer, rfl⟩ := List.getLast?_eq_some_iff.1 last
        rw [List.dropLast_concat] at followed
        exact ⟨⟨outer, name, directory, location, checked, noSlash ▸ names_eq, notDots, followed,
          named, free⟩⟩

namespace Destination

variable (destination : Destination fileSystem path)

theorem write_eq (content : Bytes) :
    fileSystem.write path content = .ok (fileSystem.withFile destination.location content) := by
  obtain ⟨outer, name, directory, location, checked, names_eq, notDots, followed, named, free⟩ :=
    destination
  simp [write, checked, names_eq, notDots, followed, named, free, withFile, bind, Except.bind]

theorem inside : destination.location ≠ [] := by
  intro root
  have free := destination.free
  rw [root] at free
  contradiction

theorem get?_withFile (content : Bytes) (other : Location) :
    (fileSystem.withFile destination.location content).tree.get? other =
      if other = destination.location then some (.file content)
      else fileSystem.tree.get? other :=
  FileTree.get?_put destination.inside fileSystem.tree (.file content) other

/-- The file takes the place of no directory. -/
theorem extends_withFile (content : Bytes) :
    Extends fileSystem (fileSystem.withFile destination.location content) where
  isDirectory place isDirectory := by
    have different : place ≠ destination.location := by
      rintro rfl
      exact absurd isDirectory (by simp [destination.free])
    rw [FileTree.isDirectory, destination.get?_withFile, if_neg different]
    exact isDirectory
  present place present := by
    rw [destination.get?_withFile]
    split
    · rfl
    · exact present

theorem namesOf_eq : namesOf path = destination.outer ++ [destination.name] := by
  have names_eq := destination.names_eq
  simp only [withoutSlashes, Prod.mk.injEq, decide_eq_false_iff_not, Nat.not_lt,
    List.length_reverse] at names_eq
  obtain ⟨kept_eq, all⟩ := names_eq
  rw [← List.length_reverse] at all
  have whole := (List.dropWhile_suffix String.isEmpty).eq_of_length_le all
  rw [← kept_eq, whole, List.reverse_reverse]

theorem locate_withFile (content : Bytes) :
    (fileSystem.withFile destination.location content).locate path = .ok destination.location := by
  have grown := destination.extends_withFile content
  have present : ((fileSystem.withFile destination.location content).tree.get?
      destination.location).isSome = true := by
    rw [destination.get?_withFile, if_pos rfl]
    rfl
  rw [locate_eq_ok_iff, destination.namesOf_eq, foldlM_append_eq_ok_iff]
  refine ⟨destination.checked, destination.directory, grown.foldlM_follow destination.followed, ?_⟩
  rw [foldlM_singleton_eq, follow_eq_ok_iff]
  exact ⟨grown.nameIn destination.named, present⟩

theorem read_withFile (content : Bytes) :
    (fileSystem.withFile destination.location content).read path = .ok content := by
  have there : (fileSystem.withFile destination.location content).tree.get? destination.location =
      some (.file content) := by
    rw [destination.get?_withFile, if_pos rfl]
  simp [read, openFile, destination.locate_withFile content, there, bind, Except.bind]

end Destination

theorem readText_of_read {text : String}
    (found : fileSystem.read path = .ok (Bytes.ofText text)) :
    fileSystem.readText path = .ok text := by
  simp [readText, found, Bytes.text?_ofText, bind, Except.bind]

theorem Destination.readText_withFile (destination : fileSystem.Destination path) (text : String) :
    (fileSystem.withFile destination.location (Bytes.ofText text)).readText path = .ok text :=
  readText_of_read (destination.read_withFile _)

/-- A text that has been written is read again. -/
theorem IsWritable.readText (writable : fileSystem.IsWritable path) (text : String) :
    ∃ written, fileSystem.write path (Bytes.ofText text) = .ok written ∧
      written.readText path = .ok text := by
  obtain ⟨destination⟩ := writable.destination
  exact ⟨_, destination.write_eq _, destination.readText_withFile text⟩

end FileSystem

end LineEcho
