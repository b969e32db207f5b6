import LineEcho.Proofs.Toml.Number
import LineEcho.Toml.Document

/-!
# Documents of lines

A document that names its values line by line, some of them at the top and the others in tables of
one level, is read as just these values in just these tables.  Every name is bare, and within a
table, or at the top, none is given twice.
-/

namespace LineEcho.Toml

/-- A name that needs no quotes. -/
def IsBareName (name : String) : Prop :=
  name.toList ≠ [] ∧ ∀ character ∈ name.toList, isBare character = true

instance (name : String) : Decidable (IsBareName name) :=
  decidable_of_iff ((!name.toList.isEmpty && name.toList.all isBare) = true)
    (by simp [IsBareName])

/-- A named value on a line of its own, and how the value is spelled. -/
structure NamedScalar where
  name : String
  spelling : List Char
  value : Scalar
  bare : IsBareName name
  begins : ∃ first others, spelling = first :: others ∧ isBlank first = false ∧ first ≠ '[' ∧
    first ≠ '\x7b'
  reads : ∀ rest, readScalar (spelling ++ '\n' :: rest) = some (value, '\n' :: rest)

/-- A table with a header of its own. -/
structure NamedTable where
  name : String
  bare : IsBareName name
  lines : List NamedScalar

def NamedScalar.text (line : NamedScalar) : List Char :=
  line.name.toList ++ [' ', '=', ' '] ++ line.spelling ++ ['\n']

def NamedTable.text (table : NamedTable) : List Char :=
  ['\n', '['] ++ table.name.toList ++ [']', '\n'] ++ table.lines.flatMap NamedScalar.text

namespace IsBareName

variable {name : String}

theorem exists_cons (bare : IsBareName name) :
    ∃ first others, name.toList = first :: others ∧ isBare first = true := by
  obtain ⟨nonempty, all⟩ := bare
  obtain ⟨first, others, name_eq⟩ := List.exists_cons_of_ne_nil nonempty
  exact ⟨first, others, name_eq, all first (name_eq ▸ List.mem_cons_self ..)⟩

theorem skipBlanks_append (bare : IsBareName name) (rest : List Char) :
    skipBlanks (name.toList ++ rest) = name.toList ++ rest := by
  obtain ⟨first, others, name_eq, isBare⟩ := bare.exists_cons
  have noBlank : isBlank first = false := by
    simp [isBlank, ne_of_test isBare (show Toml.isBare ' ' = false by decide),
      ne_of_test isBare (show Toml.isBare '\t' = false by decide)]
  rw [name_eq, List.cons_append, skipBlanks, List.dropWhile_cons_of_neg (by simp [noBlank])]

theorem skipLineEnd_append (bare : IsBareName name) (rest : List Char) :
    skipLineEnd (name.toList ++ rest) = none := by
  rw [skipLineEnd, bare.skipBlanks_append]
  obtain ⟨first, others, name_eq, isBare⟩ := bare.exists_cons
  have noComment := ne_of_test isBare (show Toml.isBare '#' = false by decide)
  have noNewline := ne_of_test isBare (show Toml.isBare '\n' = false by decide)
  have noReturn := ne_of_test isBare (show Toml.isBare '\r' = false by decide)
  simp [name_eq, skipComment, skipLineBreak, noComment, noNewline, noReturn]

theorem readPart_append (bare : IsBareName name) {stop : Char} (ends : isBare stop = false)
    (rest : List Char) :
    readPart (name.toList ++ stop :: rest) = some (name.toList, stop :: rest) := by
  have taken : (name.toList ++ stop :: rest).takeWhile isBare = name.toList := by
    rw [List.takeWhile_append_of_pos bare.2, List.takeWhile_cons_of_neg (by simp [ends]),
      List.append_nil]
  have left : (name.toList ++ stop :: rest).dropWhile isBare = stop :: rest := by
    rw [List.dropWhile_append_of_pos bare.2, List.dropWhile_cons_of_neg (by simp [ends])]
  obtain ⟨first, others, name_eq, isBare⟩ := bare.exists_cons
  have noDouble := ne_of_test isBare (show Toml.isBare '"' = false by decide)
  have noSingle := ne_of_test isBare (show Toml.isBare '\'' = false by decide)
  rw [name_eq] at taken left ⊢
  rw [readPart, taken, left]
  · rintro others ⟨⟩
    exact noDouble rfl
  · rintro others ⟨⟩
    exact noSingle rfl

/-- A bare name is read up to what follows it, which must not be a point. -/
theorem readName_append (bare : IsBareName name) {stop : Char} (ends : isBare stop = false)
    (rest : List Char) (noPoint : (skipBlanks (stop :: rest)).head? ≠ some '.') :
    ∃ span, readName (name.toList ++ stop :: rest) =
      some (([], ⟨name, span⟩), skipBlanks (stop :: rest)) := by
  refine ⟨.between (name.toList ++ stop :: rest) (stop :: rest), ?_⟩
  have key : readKey (name.toList ++ stop :: rest) =
      some (⟨name, .between (name.toList ++ stop :: rest) (stop :: rest)⟩,
        skipBlanks (stop :: rest)) := by
    simp only [readKey, bare.skipBlanks_append, bare.readPart_append ends, Option.map_some,
      String.ofList_toList]
  have parts : readParts deepest (name.toList ++ stop :: rest) =
      some ([⟨name, .between (name.toList ++ stop :: rest) (stop :: rest)⟩],
        skipBlanks (stop :: rest)) := by
    unfold deepest readParts
    rw [key]
    cases left : skipBlanks (stop :: rest) with
    | nil => rfl
    | cons next others =>
      have other : next ≠ '.' := by simpa [left] using noPoint
      simp [other]
  simp [readName, parts]

end IsBareName

theorem readStatements_of_readStatement {text rest : List Char} {statement : Statement}
    (nonempty : text ≠ []) (noEnd : skipLineEnd text = none) (noBlank : skipBlanks text = text)
    (read : readStatement text = some (statement, '\n' :: rest)) (fuel : Nat) :
    readStatements (fuel + 1) text = (readStatements fuel rest).map (statement :: ·) := by
  obtain ⟨first, others, rfl⟩ := List.exists_cons_of_ne_nil nonempty
  have ended : skipLineEnd ('\n' :: rest) = some rest := rfl
  rw [readStatements, noEnd]
  · simp only [noBlank, read, Option.bind_eq_bind, Option.bind_some, ended]
    cases readStatements fuel rest <;> rfl
  · exact nofun

theorem readValue_of_ne {first : Char} (noArray : first ≠ '[') (noTable : first ≠ '\x7b')
    (depth : Nat) (rest : List Char) :
    readValue depth (first :: rest) =
      (readScalar (first :: rest)).map
        (fun (value, left) => (.scalar (.between (first :: rest) left) value, left)) := by
  unfold readValue
  simp [noArray, noTable]

namespace NamedScalar

theorem text_append (line : NamedScalar) (rest : List Char) :
    line.text ++ rest =
      line.name.toList ++ ' ' :: '=' :: ' ' :: (line.spelling ++ '\n' :: rest) := by
  simp [text]

theorem readStatement_append (line : NamedScalar) (rest : List Char) :
    ∃ keySpan span, readStatement (line.text ++ rest) =
      some (.assignment [] ⟨line.name, keySpan⟩ (.scalar span line.value), '\n' :: rest) := by
  obtain ⟨keySpan, read⟩ := line.bare.readName_append (show isBare ' ' = false by decide)
    ('=' :: ' ' :: (line.spelling ++ '\n' :: rest)) (by simp [skipBlanks, isBlank])
  obtain ⟨first, others, spelling_eq, noBlank, noArray, noTable⟩ := line.begins
  have value := readValue_of_ne noArray noTable deepest (others ++ '\n' :: rest)
  rw [← List.cons_append, ← spelling_eq, line.reads] at value
  have unblank : skipBlanks (' ' :: (line.spelling ++ '\n' :: rest)) =
      line.spelling ++ '\n' :: rest := by
    rw [skipBlanks, List.dropWhile_cons_of_pos (by decide), spelling_eq, List.cons_append,
      List.dropWhile_cons_of_neg (by simp [noBlank])]
  have equals : skipBlanks (' ' :: '=' :: ' ' :: (line.spelling ++ '\n' :: rest)) =
      '=' :: ' ' :: (line.spelling ++ '\n' :: rest) := rfl
  have assignment : readAssignment (readValue deepest) (line.text ++ rest) =
      some (([], ⟨line.name, keySpan⟩,
        .scalar (.between (line.spelling ++ '\n' :: rest) ('\n' :: rest)) line.value),
        '\n' :: rest) := by
    rw [text_append, readAssignment, read]
    simp [equals, expect, unblank, value]
  refine ⟨keySpan, .between (line.spelling ++ '\n' :: rest) ('\n' :: rest), ?_⟩
  obtain ⟨letter, letters, name_eq, isBare⟩ := line.bare.exists_cons
  have noHeader := ne_of_test isBare (show Toml.isBare '[' = false by decide)
  have begins : ∃ more, line.text ++ rest = letter :: more := ⟨_, by rw [text_append, name_eq]; rfl⟩
  obtain ⟨more, text_eq⟩ := begins
  rw [text_eq] at assignment ⊢
  simp [readStatement, noHeader, assignment]

/-- A line is read as the assignment of its value to its name. -/
theorem readStatements_append (line : NamedScalar) (rest : List Char) :
    ∃ keySpan span, ∀ fuel, readStatements (fuel + 1) (line.text ++ rest) =
      (readStatements fuel rest).map
        (.assignment [] ⟨line.name, keySpan⟩ (.scalar span line.value) :: ·) := by
  obtain ⟨keySpan, span, read⟩ := line.readStatement_append rest
  refine ⟨keySpan, span, readStatements_of_readStatement ?_ ?_ ?_ read⟩
  · simp [text]
  · rw [text_append]
    exact line.bare.skipLineEnd_append _
  · rw [text_append]
    exact line.bare.skipBlanks_append _

end NamedScalar

namespace NamedTable

theorem readStatement_header (table : NamedTable) (rest : List Char) :
    ∃ keySpan span, readStatement ('[' :: (table.name.toList ++ ']' :: '\n' :: rest)) =
      some (.header false [] ⟨table.name, keySpan⟩ span, '\n' :: rest) := by
  obtain ⟨keySpan, read⟩ := table.bare.readName_append (show isBare ']' = false by decide)
    ('\n' :: rest) (by simp [skipBlanks, isBlank])
  have bracket : skipBlanks (']' :: '\n' :: rest) = ']' :: '\n' :: rest := rfl
  rw [bracket] at read
  obtain ⟨letter, letters, name_eq, isBare⟩ := table.bare.exists_cons
  have noRow := ne_of_test isBare (show Toml.isBare '[' = false by decide)
  rw [name_eq, List.cons_append] at read
  rw [name_eq]
  refine ⟨keySpan, .between ('[' :: (letter :: letters ++ ']' :: '\n' :: rest)) ('\n' :: rest), ?_⟩
  simp [readStatement, readHeader, expect, noRow, read]

/-- The empty line in front of a header is read on its own. -/
theorem readStatements_append (table : NamedTable) (rest : List Char) :
    ∃ keySpan span, ∀ fuel,
      readStatements (fuel + 2) ('\n' :: '[' :: (table.name.toList ++ ']' :: '\n' :: rest)) =
        (readStatements fuel rest).map (.header false [] ⟨table.name, keySpan⟩ span :: ·) := by
  obtain ⟨keySpan, span, read⟩ := table.readStatement_header rest
  refine ⟨keySpan, span, fun fuel => ?_⟩
  rw [← readStatements_of_readStatement (List.cons_ne_nil _ _) rfl rfl read fuel]
  rfl

end NamedTable

/-! ### Statements -/

/-- The statements of lines. -/
inductive Assigns : List NamedScalar → List Statement → Prop
  | nil : Assigns [] []
  | cons {lines : List NamedScalar} {statements : List Statement} (line : NamedScalar)
      (keySpan span : Span) (rest : Assigns lines statements) :
      Assigns (line :: lines)
        (.assignment [] ⟨line.name, keySpan⟩ (.scalar span line.value) :: statements)

/-- The statements of tables. -/
inductive Describes : List NamedTable → List Statement → Prop
  | nil : Describes [] []
  | cons {tables : List NamedTable} {own statements : List Statement} (table : NamedTable)
      (keySpan span : Span) (assigns : Assigns table.lines own)
      (rest : Describes tables statements) :
      Describes (table :: tables)
        (.header false [] ⟨table.name, keySpan⟩ span :: (own ++ statements))

theorem readStatements_lines (lines : List NamedScalar) (rest : List Char) :
    ∃ statements, Assigns lines statements ∧ ∀ fuel,
      readStatements (fuel + lines.length) (lines.flatMap NamedScalar.text ++ rest) =
        (readStatements fuel rest).map (statements ++ ·) := by
  induction lines with
  | nil => exact ⟨[], .nil, fun fuel => by simp⟩
  | cons line lines ih =>
    obtain ⟨statements, assigns, read⟩ := ih
    obtain ⟨keySpan, span, first⟩ :=
      line.readStatements_append (lines.flatMap NamedScalar.text ++ rest)
    refine ⟨_, .cons line keySpan span assigns, fun fuel => ?_⟩
    rw [List.flatMap_cons, List.append_assoc, List.length_cons, ← Nat.add_assoc, first, read,
      Option.map_map]
    rfl

/-- How many steps it takes to read tables. -/
def stepsOf (tables : List NamedTable) : Nat :=
  tables.foldr (fun table steps => table.lines.length + 2 + steps) 0

theorem length_le_of_lines (lines : List NamedScalar) :
    lines.length ≤ (lines.flatMap NamedScalar.text).length := by
  induction lines with
  | nil => exact Nat.le_refl _
  | cons line lines ih =>
    simp only [List.flatMap_cons, List.length_append, List.length_cons, NamedScalar.text] at ih ⊢
    omega

theorem stepsOf_le (tables : List NamedTable) :
    stepsOf tables ≤ (tables.flatMap NamedTable.text).length := by
  induction tables with
  | nil => exact Nat.le_refl _
  | cons table tables ih =>
    have within := length_le_of_lines table.lines
    simp only [stepsOf, List.foldr_cons, List.flatMap_cons, List.length_append, List.length_cons,
      NamedTable.text] at ih ⊢
    omega

theorem readStatements_tables (tables : List NamedTable) :
    ∃ statements, Describes tables statements ∧ ∀ fuel,
      readStatements (fuel + stepsOf tables) (tables.flatMap NamedTable.text) =
        some statements := by
  induction tables with
  | nil => exact ⟨[], .nil, fun fuel => by simp [readStatements]⟩
  | cons table tables ih =>
    obtain ⟨statements, describes, read⟩ := ih
    obtain ⟨own, assigns, lines⟩ :=
      readStatements_lines table.lines (tables.flatMap NamedTable.text)
    obtain ⟨keySpan, span, header⟩ := table.readStatements_append
      (table.lines.flatMap NamedScalar.text ++ tables.flatMap NamedTable.text)
    refine ⟨_, .cons table keySpan span assigns describes, fun fuel => ?_⟩
    have text_eq : (table :: tables).flatMap NamedTable.text =
        '\n' :: '[' :: (table.name.toList ++ ']' :: '\n' ::
          (table.lines.flatMap NamedScalar.text ++ tables.flatMap NamedTable.text)) := by
      simp [NamedTable.text]
    have steps_eq : fuel + stepsOf (table :: tables) =
        fuel + stepsOf tables + table.lines.length + 2 := by
      simp [stepsOf]
      omega
    rw [text_eq, steps_eq, header, lines, read]
    rfl

end LineEcho.Toml
