import LineEcho.Proofs.Files.Writing

/-!
# Making directories

Making the directory of a path, with those around it, puts directories where nothing was, and does
nothing else, whether it succeeds or not.  A tree stays sound by this, as it does when a file is
written.  A path leads to something old only if it led there before, unless it goes up out of a
directory that had to be made.
-/

namespace LineEcho.FileSystem

variable {fileSystem before after : FileSystem} {directory location place : Location}
  {name : String}

/-- Directories have been put where nothing was, and nothing else has changed. -/
structure AddsDirectories (before after : FileSystem) : Prop where
  working_eq : after.workingDirectory = before.workingDirectory
  kept : ∀ place entry, before.tree.get? place = some entry → after.tree.get? place = some entry
  added : ∀ place entry, after.tree.get? place = some entry →
    before.tree.get? place = some entry ∨ entry = .directory

namespace AddsDirectories

theorem refl (fileSystem : FileSystem) : AddsDirectories fileSystem fileSystem :=
  ⟨rfl, fun _ _ there => there, fun _ _ there => .inl there⟩

theorem trans {middle : FileSystem} (first : AddsDirectories before middle)
    (second : AddsDirectories middle after) : AddsDirectories before after where
  working_eq := second.working_eq.trans first.working_eq
  kept place entry there := second.kept place entry (first.kept place entry there)
  added place entry there := by
    rcases second.added place entry there with there | isDirectory
    · exact first.added place entry there
    · exact .inr isDirectory

/-- The files are the same, with the same content. -/
theorem file_iff (adds : AddsDirectories before after) {content : Bytes} :
    after.tree.get? place = some (.file content) ↔
      before.tree.get? place = some (.file content) := by
  constructor
  · intro there
    rcases adds.added place _ there with there | isDirectory
    · exact there
    · contradiction
  · exact adds.kept place _

end AddsDirectories

/-! ### One thing put into a directory -/

/-- The file system with something put at a place. -/
def withEntry (fileSystem : FileSystem) (location : Location) (entry : Entry) : FileSystem :=
  { fileSystem with tree := fileSystem.tree.put location entry }

theorem get?_withEntry (fileSystem : FileSystem) (name : String) (directory : Location)
    (entry : Entry) (place : Location) :
    (fileSystem.withEntry (name :: directory) entry).tree.get? place =
      if place = name :: directory then some entry else fileSystem.tree.get? place :=
  FileTree.get?_put (List.cons_ne_nil _ _) fileSystem.tree entry place

/-- A tree stays sound when anything is put into a directory under a proper name, in the place of no
directory. -/
theorem IsSound.withEntry (sound : fileSystem.IsSound)
    (isDirectory : fileSystem.tree.isDirectory directory = true) (isName : IsName name)
    (free : fileSystem.tree.isDirectory (name :: directory) = false) (entry : Entry) :
    (fileSystem.withEntry (name :: directory) entry).IsSound := by
  have isDirectory_still {place : Location}
      (isDirectory : fileSystem.tree.isDirectory place = true) :
      (fileSystem.withEntry (name :: directory) entry).tree.isDirectory place = true := by
    have different : place ≠ name :: directory := by
      rintro rfl
      exact absurd isDirectory (by simp [free])
    rw [FileTree.isDirectory, get?_withEntry, if_neg different]
    exact isDirectory
  constructor
  · intro other outer present
    rw [get?_withEntry] at present
    split at present
    · rename_i same
      cases same
      exact isDirectory_still isDirectory
    · exact isDirectory_still (sound.outer other outer present)
  · intro other outer present
    rw [get?_withEntry] at present
    split at present
    · rename_i same
      cases same
      exact isName
    · exact sound.isName other outer present
  · exact isDirectory_still sound.working

theorem addsDirectories_withEntry (free : fileSystem.tree.get? (name :: directory) = none) :
    AddsDirectories fileSystem (fileSystem.withEntry (name :: directory) .directory) where
  working_eq := rfl
  kept place entry there := by
    have different : place ≠ name :: directory := by
      rintro rfl
      cases free.symm.trans there
    rw [get?_withEntry, if_neg different]
    exact there
  added place entry there := by
    rw [get?_withEntry] at there
    split at there
    · exact .inr (Option.some.inj there).symm
    · exact .inl there

/-! ### The directories of a path -/

/-- A directory that is made is a new one, in one that is there. -/
theorem makeDirectory_cases {start : Location} {outer : List String}
    (made : before.makeDirectory start outer name = .ok after) :
    ∃ directory, before.tree.isDirectory directory = true ∧
      (name ≠ "" ∧ isDots name = false ∧ name.utf8ByteSize ≤ longestName) ∧
      before.tree.get? (name :: directory) = none ∧
      after = before.withEntry (name :: directory) .directory := by
  unfold makeDirectory at made
  obtain ⟨directory, -, made⟩ := of_bind_eq_ok made
  obtain ⟨location, named, made⟩ := of_bind_eq_ok made
  have isDirectory := isDirectory_of_nameIn named
  split at made
  · contradiction
  · rename_i fresh
    obtain ⟨noDots, absent⟩ := not_or.1 fresh
    rw [Bool.not_eq_true] at noDots absent
    cases made
    rcases nameIn_cases named with rfl | ⟨rfl, -⟩ | ⟨nonempty, notDots, short, rfl⟩
    · rw [FileTree.isSome_of_isDirectory isDirectory] at absent
      contradiction
    · contradiction
    · exact ⟨directory, isDirectory, ⟨nonempty, notDots, short⟩, by simpa using absent, rfl⟩

/-- What making a single directory keeps is kept by making all of a chain. -/
theorem makeChain_invariant (holds : FileSystem → Prop) {start chain : Location}
    (keeps : ∀ name ∈ chain, ∀ outer before after,
      makeDirectory before start outer name = .ok after → holds before → holds after)
    (kept : holds fileSystem) : holds (makeChain start chain fileSystem).1 := by
  induction chain with
  | nil => exact kept
  | cons name outer ih =>
    obtain ⟨keepsFirst, keepsOthers⟩ := List.forall_mem_cons.1 keeps
    have around := ih keepsOthers
    rw [makeChain]
    dsimp only
    split
    · rename_i made
      exact keepsFirst _ _ _ made kept
    · split
      · split
        · rename_i others _ failed
          rwa [failed] at around
        · rename_i others made
          rw [made] at around
          split
          · rename_i last
            exact keepsFirst _ _ _ last around
          · split <;> exact around
      · split <;> exact kept

theorem mem_plainNames {path : String} (member : name ∈ plainNames path) : name ∈ namesOf path := by
  unfold plainNames at member
  split at member
  · rename_i names names_eq
    rw [names_eq]
    rcases List.mem_cons.1 member with rfl | member
    · exact List.mem_cons_self
    · exact List.mem_cons_of_mem _ (List.mem_filter.1 member).1
  · exact (List.mem_filter.1 member).1

/-- What making a single directory keeps is kept by making those of a path. -/
theorem makeDirectories_invariant (holds : FileSystem → Prop) {path : String}
    (keeps : ∀ name, '/' ∉ name.toList → '\x00' ∉ name.toList → ∀ start outer before after,
      makeDirectory before start outer name = .ok after → holds before → holds after)
    (kept : holds fileSystem) : holds (fileSystem.makeDirectories path).1 := by
  unfold makeDirectories
  split
  · exact kept
  · split
    · exact kept
    · rename_i checked
      refine makeChain_invariant holds (fun name member => ?_) kept
      obtain ⟨plain, within⟩ := mem_namesOf (mem_plainNames (List.mem_reverse.1 member))
      have noNull := (checkPath_eq_ok_iff.1 checked).1
      exact keeps name plain (fun null => noNull (within null)) _

theorem addsDirectories_makeDirectories (path : String) (fileSystem : FileSystem) :
    AddsDirectories fileSystem (fileSystem.makeDirectories path).1 := by
  refine makeDirectories_invariant (AddsDirectories fileSystem) ?_ (.refl fileSystem)
  intro name _ _ start outer before after made adds
  obtain ⟨directory, -, -, free, rfl⟩ := makeDirectory_cases made
  exact adds.trans (addsDirectories_withEntry free)

theorem IsSound.makeDirectories (sound : fileSystem.IsSound) (path : String) :
    (fileSystem.makeDirectories path).1.IsSound := by
  refine makeDirectories_invariant IsSound ?_ sound
  intro name plain noNull start outer before after made sound
  obtain ⟨directory, isDirectory, ⟨nonempty, notDots, short⟩, free, rfl⟩ := makeDirectory_cases made
  have isFree : before.tree.isDirectory (name :: directory) = false := by
    rw [FileTree.isDirectory, free]
    rfl
  exact sound.withEntry isDirectory ⟨nonempty, notDots, plain, noNull, short⟩ isFree .directory

/-! ### Going up -/

/-- Wherever names go up, there is something to go up from. -/
def CanClimb (fileSystem : FileSystem) (start : Location) (names : List String) : Prop :=
  ∀ outer rest, names = outer ++ ".." :: rest →
    ∃ place, outer.foldlM fileSystem.follow start = .ok place

theorem CanClimb.of_append {start : Location} {front back : List String}
    (climbs : fileSystem.CanClimb start (front ++ back)) : fileSystem.CanClimb start front := by
  intro outer rest front_eq
  exact climbs outer (rest ++ back) (by simp [front_eq])

theorem CanClimb.append {start : Location} {front back : List String}
    (climbs : fileSystem.CanClimb start front) (stays : ".." ∉ back) :
    fileSystem.CanClimb start (front ++ back) := by
  intro outer rest whole
  rcases List.append_eq_append_iff.1 whole with ⟨more, -, back_eq⟩ | ⟨more, front_eq, rest_eq⟩
  · exact absurd (by simp [back_eq]) stays
  · cases more with
    | nil =>
      rw [List.nil_append] at rest_eq
      exact absurd (rest_eq ▸ List.mem_cons_self) stays
    | cons first others =>
      obtain ⟨rfl, -⟩ := List.cons.inj rest_eq
      exact climbs outer others front_eq

/-- Names that do not go up lead further in. -/
theorem suffix_of_foldlM_follow {names : List String} (stays : ".." ∉ names)
    (followed : names.foldlM fileSystem.follow place = .ok location) : place <:+ location := by
  induction names generalizing place with
  | nil =>
    cases followed
    exact List.suffix_refl _
  | cons name rest ih =>
    rw [List.foldlM_cons] at followed
    obtain ⟨next, reached, followed⟩ := of_bind_eq_ok followed
    have inner := ih (List.not_mem_of_not_mem_cons stays) followed
    rcases nameIn_cases (follow_eq_ok_iff.1 reached).1 with rfl | ⟨climbs, -⟩ | ⟨-, -, -, rfl⟩
    · exact inner
    · exact absurd climbs (List.ne_of_not_mem_cons stays).symm
    · exact (List.suffix_cons _ _).trans inner

namespace AddsDirectories

theorem nameIn_of_present (adds : AddsDirectories before after)
    (present : (before.tree.get? directory).isSome = true)
    (named : after.nameIn directory name = .ok location) :
    before.nameIn directory name = .ok location := by
  have isDirectory := isDirectory_of_nameIn named
  obtain ⟨entry, there⟩ := Option.isSome_iff_exists.1 present
  have same := adds.kept directory entry there
  rw [FileTree.isDirectory_iff.1 isDirectory] at same
  cases same
  unfold nameIn at named ⊢
  rw [isDirectory] at named
  rw [FileTree.isDirectory_iff.2 there]
  exact named

/-- Names that lead to something old led there before, unless they go up out of what is new. -/
theorem foldlM_follow_of_present (adds : AddsDirectories before after) (sound : before.IsSound)
    {names : List String} (climbs : before.CanClimb place names)
    (start : (before.tree.get? place).isSome = true)
    (followed : names.foldlM after.follow place = .ok location)
    (present : (before.tree.get? location).isSome = true) :
    names.foldlM before.follow place = .ok location := by
  induction names generalizing place with
  | nil => exact followed
  | cons name rest ih =>
    rw [List.foldlM_cons] at followed ⊢
    obtain ⟨next, reached, followed⟩ := of_bind_eq_ok followed
    have named := adds.nameIn_of_present start (follow_eq_ok_iff.1 reached).1
    cases there : (before.tree.get? next).isSome with
    | true =>
      have reached : before.follow place name = .ok next := follow_eq_ok_iff.2 ⟨named, there⟩
      rw [reached]
      refine ih (fun outer others rest_eq => ?_) there followed
      obtain ⟨around, followed⟩ := climbs (name :: outer) others (by rw [rest_eq]; rfl)
      rw [List.foldlM_cons, reached] at followed
      exact ⟨around, followed⟩
    | false =>
      -- the rest does not go up again, so what it leads to is inside of something new
      have stays : ".." ∉ rest := by
        intro member
        obtain ⟨outer, others, rest_eq⟩ := List.append_of_mem member
        obtain ⟨around, followed⟩ := climbs (name :: outer) others (by rw [rest_eq]; rfl)
        rw [List.foldlM_cons] at followed
        obtain ⟨other, reached, -⟩ := of_bind_eq_ok followed
        obtain ⟨same, present⟩ := follow_eq_ok_iff.1 reached
        cases named.symm.trans same
        rw [there] at present
        contradiction
      have inner := sound.isSome_of_suffix (suffix_of_foldlM_follow stays followed) present
      rw [there] at inner
      contradiction

end AddsDirectories

end LineEcho.FileSystem
