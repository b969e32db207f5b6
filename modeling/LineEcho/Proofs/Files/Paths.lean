import LineEcho.Files.FileSystem

/-!
# The names of a path

A path is split at its slashes, and joining a name to it adds this name to the others, unless the
path ends in a slash, whose empty name it then takes the place of.  The path of a place from the
root has just the names of the place.
-/

namespace LineEcho

namespace Text

variable {separator : Char}

theorem split_ne_nil (text : List Char) : split separator text ≠ [] := by
  cases text with
  | nil => exact List.cons_ne_nil _ _
  | cons character rest =>
    rw [split]
    split
    · exact List.cons_ne_nil _ _
    · split <;> exact List.cons_ne_nil _ _

theorem split_cons_of_ne {character : Char} (different : character ≠ separator)
    {text first : List Char} {others : List (List Char)}
    (pieces : split separator text = first :: others) :
    split separator (character :: text) = (character :: first) :: others := by
  rw [split, if_neg different, pieces]

theorem split_append (first rest : List Char) :
    split separator (first ++ separator :: rest) =
      split separator first ++ split separator rest := by
  induction first with
  | nil => exact if_pos rfl
  | cons character others ih =>
    by_cases same : character = separator
    · rw [List.cons_append, split, if_pos same, split, if_pos same, ih, List.cons_append]
    · obtain ⟨piece, pieces, split_eq⟩ := List.exists_cons_of_ne_nil (split_ne_nil others)
      rw [split_eq, List.cons_append] at ih
      rw [List.cons_append, split_cons_of_ne same ih, split_cons_of_ne same split_eq,
        List.cons_append]

theorem split_of_notMem {text : List Char} (absent : separator ∉ text) :
    split separator text = [text] := by
  induction text with
  | nil => rfl
  | cons character rest ih =>
    exact split_cons_of_ne (List.ne_of_not_mem_cons absent).symm
      (ih (List.not_mem_of_not_mem_cons absent))

/-- A piece has no separator in it, and nothing that the text has not. -/
theorem mem_split {text piece : List Char} (member : piece ∈ split separator text) :
    separator ∉ piece ∧ piece ⊆ text := by
  induction text generalizing piece with
  | nil =>
    rw [List.mem_singleton.1 member]
    exact ⟨List.not_mem_nil, List.nil_subset _⟩
  | cons character rest ih =>
    by_cases same : character = separator
    · rw [split, if_pos same] at member
      rcases List.mem_cons.1 member with rfl | member
      · exact ⟨List.not_mem_nil, List.nil_subset _⟩
      · exact ⟨(ih member).1, List.Subset.trans (ih member).2 (List.subset_cons_self _ _)⟩
    · obtain ⟨first, others, split_eq⟩ := List.exists_cons_of_ne_nil (split_ne_nil rest)
      rw [split_cons_of_ne same split_eq] at member
      rcases List.mem_cons.1 member with rfl | member
      · obtain ⟨noSeparator, within⟩ := ih (split_eq ▸ List.mem_cons_self)
        exact ⟨List.not_mem_cons_of_ne_of_not_mem (Ne.symm same) noSeparator,
          List.cons_subset_cons _ within⟩
      · obtain ⟨noSeparator, within⟩ := ih (split_eq ▸ List.mem_cons_of_mem _ member)
        exact ⟨noSeparator, List.Subset.trans within (List.subset_cons_self _ _)⟩

end Text

namespace FileSystem

theorem namesOf_append (first rest : String) :
    namesOf (first ++ "/" ++ rest) = namesOf first ++ namesOf rest := by
  have text_eq : (first ++ "/" ++ rest).toList = first.toList ++ '/' :: rest.toList := by
    simp [String.toList_append]
  rw [namesOf, text_eq, Text.split_append, List.map_append]
  rfl

theorem namesOf_of_plain {name : String} (plain : '/' ∉ name.toList) : namesOf name = [name] := by
  rw [namesOf, Text.split_of_notMem plain, List.map_singleton, String.ofList_toList]

theorem mem_namesOf {path name : String} (member : name ∈ namesOf path) :
    '/' ∉ name.toList ∧ name.toList ⊆ path.toList := by
  obtain ⟨piece, listed, rfl⟩ := List.mem_map.1 member
  rw [String.toList_ofList]
  exact Text.mem_split listed

/-! ### Joining -/

theorem exists_join_eq (path name : String) : ∃ rest, join path name = path ++ rest := by
  unfold join
  split
  · exact ⟨name, rfl⟩
  · exact ⟨"/" ++ name, String.append_assoc⟩

theorem join_ne_empty {path : String} (nonempty : path ≠ "") (name : String) :
    join path name ≠ "" := by
  obtain ⟨rest, join_eq⟩ := exists_join_eq path name
  rw [join_eq, ne_eq, String.append_eq_empty_iff]
  exact fun empty => nonempty empty.1

/-- A name comes after those of the path, of which an empty one at the end does not count. -/
theorem namesOf_join (path : String) {name : String} (plain : '/' ∉ name.toList) :
    ∃ base, namesOf (join path name) = base ++ [name] ∧
      (namesOf path = base ∨ namesOf path = base ++ [""]) := by
  unfold join
  split
  · rename_i ends
    rcases ends with empty | slash
    · obtain rfl := String.isEmpty_iff.1 empty
      refine ⟨[], ?_, .inr rfl⟩
      rw [String.empty_append]
      exact namesOf_of_plain plain
    · obtain ⟨front, path_eq⟩ := List.getLast?_eq_some_iff.1 slash
      obtain rfl : path = String.ofList front ++ "/" := by
        rw [← String.toList_inj, path_eq]
        simp
      refine ⟨namesOf (String.ofList front), ?_, .inr ?_⟩
      · rw [namesOf_append, namesOf_of_plain plain]
      · have whole := namesOf_append (String.ofList front) ""
        rwa [String.append_empty] at whole
  · exact ⟨namesOf path, by rw [namesOf_append, namesOf_of_plain plain], .inl rfl⟩

theorem checkPath_eq_ok_iff {path : String} :
    checkPath path = .ok () ↔
      '\x00' ∉ path.toList ∧ path ≠ "" ∧ path.utf8ByteSize ≤ longestPath := by
  unfold checkPath
  split
  · rename_i null
    simp only [List.contains_iff_mem] at null
    simp [null]
  · rename_i noNull
    simp only [List.contains_iff_mem] at noNull
    split
    · rename_i empty
      simp [String.isEmpty_iff.1 empty]
    · rename_i nonempty
      rw [String.isEmpty_iff] at nonempty
      split <;> simp_all

theorem checkPath_of_join {path name : String} (checked : checkPath (join path name) = .ok ())
    (nonempty : path ≠ "") : checkPath path = .ok () := by
  obtain ⟨rest, join_eq⟩ := exists_join_eq path name
  rw [join_eq, checkPath_eq_ok_iff, String.toList_append, String.utf8ByteSize_append] at checked
  obtain ⟨noNull, -, short⟩ := checked
  refine checkPath_eq_ok_iff.2 ⟨fun null => noNull (List.mem_append_left _ null), nonempty, ?_⟩
  omega

end FileSystem

/-! ### Places -/

/-- A name that something in a directory can have. -/
structure IsName (name : String) : Prop where
  nonempty : name ≠ ""
  notDots : FileSystem.isDots name = false
  plain : '/' ∉ name.toList
  noNull : '\x00' ∉ name.toList
  short : name.utf8ByteSize ≤ FileSystem.longestName

namespace Location

variable {name : String} {outer location : Location}

theorem intercalate_concat {names : List String} (nonempty : names ≠ []) (name : String) :
    "/".intercalate (names ++ [name]) = "/".intercalate names ++ "/" ++ name := by
  induction names with
  | nil => contradiction
  | cons first others ih =>
    cases others with
    | nil => simp [String.intercalate_cons_cons]
    | cons second others =>
      rw [List.cons_append, List.cons_append, String.intercalate_cons_cons,
        String.intercalate_cons_cons, ← List.cons_append, ih (List.cons_ne_nil _ _)]
      simp only [String.append_assoc]

theorem path_cons (inside : outer ≠ []) (name : String) :
    path (name :: outer) = path outer ++ "/" ++ name := by
  have nonempty : outer.reverse ≠ [] := fun empty => inside (List.reverse_eq_nil_iff.1 empty)
  simp only [path, List.reverse_cons, intercalate_concat nonempty, String.append_assoc]

theorem path_singleton (name : String) : path [name] = "/" ++ name := by
  simp [path]

theorem head?_path (location : Location) : (path location).toList.head? = some '/' := by
  simp [path, String.toList_append]

/-- The path of a place names the root and then the names of the place, from outside. -/
theorem namesOf_path (inside : location ≠ []) (names : ∀ name ∈ location, IsName name) :
    FileSystem.namesOf (path location) = "" :: location.reverse := by
  induction location with
  | nil => contradiction
  | cons name outer ih =>
    obtain ⟨isName, names⟩ := List.forall_mem_cons.1 names
    have single := FileSystem.namesOf_of_plain isName.plain
    cases outer with
    | nil =>
      have whole := FileSystem.namesOf_append "" name
      rw [single, String.empty_append] at whole
      rw [path_singleton, whole]
      rfl
    | cons next outer =>
      rw [path_cons (List.cons_ne_nil _ _), FileSystem.namesOf_append, single,
        ih (List.cons_ne_nil _ _) names, List.reverse_cons (a := name)]
      rfl

theorem exists_path_eq (name : String) (outer : Location) :
    ∃ front, path (name :: outer) = front ++ name := by
  cases outer with
  | nil => exact ⟨"/", path_singleton name⟩
  | cons next outer => exact ⟨path (next :: outer) ++ "/", path_cons (List.cons_ne_nil _ _) name⟩

theorem path_ne_empty (location : Location) : path location ≠ "" := by
  intro empty
  have slash := head?_path location
  rw [empty] at slash
  contradiction

theorem getLast?_path (isName : IsName name) (outer : Location) :
    (path (name :: outer)).toList.getLast? ≠ some '/' := by
  obtain ⟨front, path_eq⟩ := exists_path_eq name outer
  have nonempty : name.toList ≠ [] := by
    rw [Ne, String.toList_eq_nil_iff]
    exact isName.nonempty
  rw [path_eq, String.toList_append, List.getLast?_append,
    List.getLast?_eq_some_getLast nonempty, Option.some_or]
  exact fun same => isName.plain (Option.some.inj same ▸ List.getLast_mem nonempty)

/-- A name that is joined to the path of a place gives the path of a place in there. -/
theorem join_path (names : ∀ name ∈ outer, IsName name) (name : String) :
    FileSystem.join (path outer) name = path (name :: outer) := by
  unfold FileSystem.join
  cases outer with
  | nil =>
    have slash : (path []).toList.getLast? = some '/' := by decide
    rw [if_pos (.inr slash), path_singleton]
    rfl
  | cons next others =>
    have noSlash := getLast?_path (names next List.mem_cons_self) others
    rw [if_neg (not_or.2 ⟨?_, noSlash⟩), path_cons (List.cons_ne_nil _ _)]
    rw [String.isEmpty_iff]
    exact path_ne_empty _

theorem noNull_path (names : ∀ name ∈ location, IsName name) :
    '\x00' ∉ (path location).toList := by
  induction location with
  | nil => decide
  | cons name outer ih =>
    obtain ⟨isName, names⟩ := List.forall_mem_cons.1 names
    have noNull := isName.noNull
    cases outer with
    | nil => simp [path_singleton, String.toList_append, noNull]
    | cons next outer =>
      have before := ih names
      simp [path_cons (List.cons_ne_nil next outer), String.toList_append, noNull, before]

theorem checkPath_path (names : ∀ name ∈ location, IsName name) :
    FileSystem.checkPath (path location) = .ok () ↔
      (path location).utf8ByteSize ≤ FileSystem.longestPath := by
  rw [FileSystem.checkPath_eq_ok_iff]
  exact ⟨fun checked => checked.2.2, fun short => ⟨noNull_path names, path_ne_empty _, short⟩⟩

end Location

end LineEcho
