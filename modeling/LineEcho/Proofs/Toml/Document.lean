import LineEcho.Proofs.Toml.Quoted
import LineEcho.Proofs.Toml.Statements

/-!
# Documents of lines

The values of such a document come out in the order of its lines, and its tables in the order of
their headers, if no name is given twice.
-/

namespace LineEcho.Toml

/-- The entries of lines. -/
inductive Holds : List NamedScalar → Entries → Prop
  | nil : Holds [] []
  | cons {lines : List NamedScalar} {entries : Entries} (line : NamedScalar) (keySpan span : Span)
      (rest : Holds lines entries) :
      Holds (line :: lines) ((⟨line.name, keySpan⟩, .scalar span line.value) :: entries)

/-- The entries of tables. -/
inductive HoldsTables : List NamedTable → Entries → Prop
  | nil : HoldsTables [] []
  | cons {tables : List NamedTable} {values entries : Entries} (table : NamedTable)
      (keySpan span : Span) (holds : Holds table.lines values) (rest : HoldsTables tables entries) :
      HoldsTables (table :: tables)
        ((⟨table.name, keySpan⟩, .table (some span) .header values) :: entries)

namespace Entries

def names (entries : Entries) : List String :=
  entries.map (fun entry => entry.1.name)

theorem names_concat (entries : Entries) (key : Key) (value : Node) :
    names (entries ++ [(key, value)]) = entries.names ++ [key.name] := by
  simp [names]

/-- A name that comes next is not there yet. -/
theorem not_mem_of_nodup {names others : List String} {name : String}
    (distinct : (names ++ name :: others).Nodup) : name ∉ names := fun member =>
  (List.nodup_append.1 distinct).2.2 name member name (List.mem_cons_self ..) rfl

theorem ne_of_not_mem {entries : Entries} {name : String} (missing : name ∉ entries.names)
    {entry : Key × Node} (member : entry ∈ entries) : entry.1.name ≠ name := by
  rintro rfl
  exact missing (List.mem_map_of_mem member)

theorem get?_of_not_mem {entries : Entries} {name : String} (missing : name ∉ entries.names) :
    entries.get? name = none := by
  rw [get?, Option.map_eq_none_iff, List.find?_eq_none]
  intro entry member
  simpa using ne_of_not_mem missing member

theorem erase_of_not_mem {entries : Entries} {name : String} (missing : name ∉ entries.names) :
    entries.erase name = entries := by
  rw [erase, List.filter_eq_self]
  intro entry member
  simpa using ne_of_not_mem missing member

end Entries

theorem Holds.names_eq {lines : List NamedScalar} {entries : Entries}
    (holds : Holds lines entries) : entries.names = lines.map NamedScalar.name := by
  induction holds with
  | nil => rfl
  | cons line keySpan span rest ih => exact congrArg (line.name :: ·) ih

/-- A place at the top, or in the table of a key. -/
def Place.IsAt (key? : Option Key) (place : Place) : Prop :=
  match key? with
  | none => place = .top
  | some key => ∃ span, place = .table [] key span

theorem Place.IsAt.extended {key? : Option Key} {place : Place} (isAt : place.IsAt key?)
    (stop : Span) : (place.extended stop).IsAt key? := by
  cases key? with
  | none =>
    cases isAt
    rfl
  | some key =>
    obtain ⟨span, rfl⟩ := isAt
    exact ⟨span.through stop, rfl⟩

theorem Assigns.foldlM {lines : List NamedScalar} {statements : List Statement}
    (assigns : Assigns lines statements) {key? : Option Key} {draft : Draft}
    (isAt : draft.place.IsAt key?)
    (distinct : (draft.values.names ++ lines.map NamedScalar.name).Nodup) :
    ∃ place entries, place.IsAt key? ∧ Holds lines entries ∧
      statements.foldlM Draft.add? draft = some ⟨draft.closed, place, draft.values ++ entries⟩ := by
  induction assigns generalizing draft with
  | nil => exact ⟨draft.place, [], isAt, .nil, by simp⟩
  | @cons lines statements line keySpan span rest ih =>
    have missing := Entries.not_mem_of_nodup distinct
    have added : draft.add? (.assignment [] ⟨line.name, keySpan⟩ (.scalar span line.value)) =
        some ⟨draft.closed, draft.place.extended span,
          draft.values ++ [(⟨line.name, keySpan⟩, .scalar span line.value)]⟩ := by
      simp [Draft.add?, Entries.assign?, Entries.alterAt, Entries.insert?,
        Entries.get?_of_not_mem missing, Node.span?]
    obtain ⟨place, entries, isAtEnd, holds, folded⟩ :=
      @ih ⟨draft.closed, draft.place.extended span,
          draft.values ++ [(⟨line.name, keySpan⟩, .scalar span line.value)]⟩
        (isAt.extended span) (by simpa [Entries.names_concat] using distinct)
    refine ⟨place, _, isAtEnd, .cons line keySpan span holds, ?_⟩
    rw [List.foldlM_cons, added]
    simpa using folded

theorem Describes.foldlM {tables : List NamedTable} {statements : List Statement}
    (describes : Describes tables statements) {draft : Draft} {closed : Entries}
    (closes : draft.close? = some closed)
    (distinct : (closed.names ++ tables.map NamedTable.name).Nodup)
    (within : ∀ table ∈ tables, (table.lines.map NamedScalar.name).Nodup) :
    ∃ entries, HoldsTables tables entries ∧
      (statements.foldlM Draft.add? draft).bind Draft.close? = some (closed ++ entries) := by
  induction describes generalizing draft closed with
  | nil => exact ⟨[], .nil, by simpa using closes⟩
  | @cons tables own statements table keySpan span assigns rest ih =>
    have missing := Entries.not_mem_of_nodup distinct
    have none := Entries.get?_of_not_mem missing
    have added : draft.add? (.header false [] ⟨table.name, keySpan⟩ span) =
        some ⟨closed, .table [] ⟨table.name, keySpan⟩ span, []⟩ := by
      simp [Draft.add?, closes, Entries.along, Entries.announced, none]
    obtain ⟨place, values, ⟨placeSpan, rfl⟩, holds, folded⟩ :=
      @Assigns.foldlM _ _ assigns (some ⟨table.name, keySpan⟩)
        ⟨closed, .table [] ⟨table.name, keySpan⟩ span, []⟩ ⟨span, rfl⟩
        (by simpa [Entries.names] using within table (List.mem_cons_self ..))
    have closesTable : Draft.close? ⟨closed, .table [] ⟨table.name, keySpan⟩ placeSpan, values⟩ =
        some (closed ++ [(⟨table.name, keySpan⟩, .table (some placeSpan) .header values)]) := by
      simp [Draft.close?, Entries.alterAt, Entries.putTable?, none,
        Entries.erase_of_not_mem missing]
    obtain ⟨entries, holdsRest, foldedRest⟩ := ih closesTable
      (by simpa [Entries.names_concat] using distinct)
      (fun other member => within other (List.mem_cons_of_mem _ member))
    refine ⟨_, .cons table keySpan placeSpan holds holdsRest, ?_⟩
    rw [List.foldlM_cons, added]
    simp only [Option.bind_eq_bind, Option.bind_some, List.foldlM_append, folded,
      List.nil_append] at foldedRest ⊢
    rw [foldedRest, List.append_assoc]
    rfl

theorem head?_ne_mark (lines : List NamedScalar) (tables : List NamedTable) :
    (lines.flatMap NamedScalar.text ++ tables.flatMap NamedTable.text).head? ≠
      some (Char.ofNat 0xFEFF) := by
  cases lines with
  | nil =>
    cases tables with
    | nil => exact nofun
    | cons table tables => simp [NamedTable.text]
  | cons line lines =>
    obtain ⟨first, others, name_eq, isBare⟩ := line.bare.exists_cons
    have other := ne_of_test isBare
      (show Toml.isBare (Char.ofNat 0xFEFF) = false by decide)
    simpa [NamedScalar.text, name_eq] using other

/-- A document of lines and tables is read as the values and the tables that it names. -/
theorem parse_lines_tables {lines : List NamedScalar} {tables : List NamedTable}
    (distinct : (lines.map NamedScalar.name ++ tables.map NamedTable.name).Nodup)
    (within : ∀ table ∈ tables, (table.lines.map NamedScalar.name).Nodup) :
    ∃ values entries, Holds lines values ∧ HoldsTables tables entries ∧
      parse (lines.flatMap NamedScalar.text ++ tables.flatMap NamedTable.text) =
        some (values ++ entries) := by
  obtain ⟨own, assigns, readLines⟩ :=
    readStatements_lines lines (tables.flatMap NamedTable.text)
  obtain ⟨statements, describes, readTables⟩ := readStatements_tables tables
  obtain ⟨place, values, top, holds, folded⟩ :=
    @Assigns.foldlM _ _ assigns none Draft.start rfl
      (by simpa [Draft.start, Entries.names] using (List.nodup_append.1 distinct).1)
  cases top
  have closes :
      Draft.close? ⟨Draft.start.closed, .top, Draft.start.values ++ values⟩ = some values := rfl
  obtain ⟨entries, holdsTables, closed⟩ := describes.foldlM closes (by rwa [holds.names_eq]) within
  refine ⟨values, entries, holds, holdsTables, ?_⟩
  have enough : stepsOf tables + lines.length ≤
      (lines.flatMap NamedScalar.text ++ tables.flatMap NamedTable.text).length + 1 := by
    have few := length_le_of_lines lines
    have fewTables := stepsOf_le tables
    rw [List.length_append]
    omega
  obtain ⟨spare, fuel_eq⟩ := Nat.exists_eq_add_of_le' enough
  unfold parse
  simp only [if_neg (head?_ne_mark lines tables)]
  rw [fuel_eq, ← Nat.add_assoc, readLines, readTables]
  simp only [Entries.ofStatements?, Option.map_some, Option.bind_eq_bind, Option.bind_some,
    List.foldlM_append, folded] at closed ⊢
  exact closed

/-! ### Lines of values -/

namespace NamedScalar

/-- A line that gives a text to a name. -/
def ofText (name : String) (bare : IsBareName name) (content : String) : NamedScalar where
  name := name
  spelling := writeQuoted content.toList
  value := .text content
  bare := bare
  begins := by
    obtain ⟨quote, others, written⟩ := exists_mark_writeQuoted content.toList
    refine ⟨quote.mark, others, written, ?_⟩
    cases quote <;> decide
  reads rest := by
    have ends : ∀ quote : Quote, ('\n' :: rest).head? ≠ some quote.mark := by
      intro quote
      cases quote <;> exact nofun
    rw [readScalar_writeQuoted content.toList ends, String.ofList_toList]

/-- A line that gives a natural number to a name. -/
def ofNat (name : String) (bare : IsBareName name) (number : Nat)
    (fits : number < Word.signedBound) : NamedScalar where
  name := name
  spelling := Nat.toDigits 10 number
  value := .integer number
  bare := bare
  begins := by
    obtain ⟨first, others, digits_eq, isDigit⟩ := (areDigits_toDigits number).exists_cons
    have noSpace := ne_of_test isDigit (show (' ').isDigit = false by decide)
    have noTab := ne_of_test isDigit (show ('\t').isDigit = false by decide)
    exact ⟨first, others, digits_eq, by simp [isBlank, noSpace, noTab],
      ne_of_test isDigit (by decide), ne_of_test isDigit (by decide)⟩
  reads rest := readScalar_toDigits fits rest

/-- A line that gives a truth value to a name. -/
def ofBool (name : String) (bare : IsBareName name) (flag : Bool) : NamedScalar where
  name := name
  spelling := if flag then ['t', 'r', 'u', 'e'] else ['f', 'a', 'l', 's', 'e']
  value := .boolean flag
  bare := bare
  begins := by
    cases flag
    · exact ⟨'f', _, rfl, by decide⟩
    · exact ⟨'t', _, rfl, by decide⟩
  reads rest := by cases flag <;> rfl

end NamedScalar

end LineEcho.Toml
