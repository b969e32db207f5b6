import LineEcho.Proofs.Toml.Document

/-!
# Every document is in order

No table of a document has two values of one name, and every integer of a document has 64 bits.
This holds of the values as they are read, and every statement keeps it.
-/

namespace LineEcho.Toml

/-- A value without parts that a document can hold. -/
def Scalar.Fits : Scalar → Prop
  | .integer value => Word.isSigned value = true
  | _ => True

/-- A value of which no table, at any depth, has two values of one name. -/
inductive Node.Orderly : Node → Prop
  | scalar (span : Span) {value : Scalar} (fits : value.Fits) : Orderly (.scalar span value)
  | array (span : Span) {elements : List Node} (each : ∀ node ∈ elements, Orderly node) :
      Orderly (.array span elements)
  | table (span : Option Span) (origin : Origin) {entries : List (Key × Node)}
      (distinct : (Entries.names entries).Nodup) (each : ∀ entry ∈ entries, Orderly entry.2) :
      Orderly (.table span origin entries)
  | rows {tables : List (Span × List (Key × Node))}
      (distinct : ∀ row ∈ tables, (Entries.names row.2).Nodup)
      (each : ∀ row ∈ tables, ∀ entry ∈ row.2, Orderly entry.2) : Orderly (.rows tables)

/-- A table in order. -/
structure Entries.Orderly (entries : Entries) : Prop where
  distinct : entries.names.Nodup
  each : ∀ entry ∈ entries, entry.2.Orderly

theorem Node.orderly_table {span : Option Span} {origin : Origin} {entries : Entries} :
    (Node.table span origin entries).Orderly ↔ entries.Orderly := by
  constructor
  · intro orderly
    cases orderly with
    | table _ _ distinct each => exact ⟨distinct, each⟩
  · exact fun orderly => .table span origin orderly.distinct orderly.each

theorem Node.orderly_rows {tables : List (Span × Entries)} :
    (Node.rows tables).Orderly ↔ ∀ row ∈ tables, Entries.Orderly row.2 := by
  constructor
  · intro orderly row member
    cases orderly with
    | rows distinct each => exact ⟨distinct row member, each row member⟩
  · exact fun orderly => .rows (fun row member => (orderly row member).distinct)
      (fun row member => (orderly row member).each)

namespace Entries

variable {entries : Entries} {name : String} {key : Key} {value : Node}

theorem not_mem_of_get?_eq_none (missing : entries.get? name = none) : name ∉ entries.names := by
  intro named
  obtain ⟨entry, member, rfl⟩ := List.mem_map.1 named
  rw [get?, Option.map_eq_none_iff, List.find?_eq_none] at missing
  exact missing entry member (beq_self_eq_true _)

theorem exists_mem_of_get? (found : entries.get? name = some value) :
    ∃ entry ∈ entries, entry.1.name = name ∧ entry.2 = value := by
  obtain ⟨entry, here, rfl⟩ := Option.map_eq_some_iff.1 found
  exact ⟨entry, List.mem_of_find?_eq_some here, by simpa using List.find?_some here, rfl⟩

theorem get?_cons_self (key : Key) (value : Node) (entries : Entries) :
    Entries.get? ((key, value) :: entries) key.name = some value := by
  simp [get?]

theorem get?_cons_of_ne (differs : name ≠ key.name) :
    Entries.get? ((key, value) :: entries) name = entries.get? name := by
  simp [get?, differs.symm]

/-- If no name is there twice, every value is found under its name. -/
theorem get?_of_mem (distinct : entries.names.Nodup) {entry : Key × Node} (member : entry ∈ entries)
    (named : entry.1.name = name) : entries.get? name = some entry.2 := by
  subst named
  induction entries with
  | nil => contradiction
  | cons first others ih =>
    obtain ⟨fresh, distinct⟩ := List.nodup_cons.1 distinct
    rcases List.mem_cons.1 member with rfl | member
    · exact get?_cons_self entry.1 entry.2 others
    · have differs : entry.1.name ≠ first.1.name := by
        intro same
        exact fresh (List.mem_map.2 ⟨entry, member, same⟩)
      exact (get?_cons_of_ne differs).trans (ih distinct member)

@[simp]
theorem names_replace (entries : Entries) (name : String) (value : Node) :
    (entries.replace name value).names = entries.names := by
  simp only [names, replace, List.map_map, List.map_inj_left, Function.comp_apply]
  intro entry _
  split <;> rfl

theorem not_mem_names_erase (entries : Entries) (name : String) :
    name ∉ (entries.erase name).names := by
  simp [names, erase]

end Entries

/-! ### Changing a table -/

namespace Entries.Orderly

variable {entries : Entries} {name : String} {key : Key} {value : Node}

theorem nil : Entries.Orderly [] :=
  ⟨List.nodup_nil, nofun⟩

theorem of_get? (orderly : entries.Orderly) (found : entries.get? name = some value) :
    value.Orderly := by
  obtain ⟨entry, member, -, rfl⟩ := exists_mem_of_get? found
  exact orderly.each entry member

theorem concat (orderly : entries.Orderly) (missing : key.name ∉ entries.names)
    (holds : value.Orderly) : Entries.Orderly (entries ++ [(key, value)]) where
  distinct := by
    rw [names_concat, List.nodup_append]
    refine ⟨orderly.distinct, List.pairwise_singleton _ _, ?_⟩
    rintro name member _ last rfl
    exact missing (List.mem_singleton.1 last ▸ member)
  each := by
    intro entry member
    rcases List.mem_append.1 member with member | member
    · exact orderly.each entry member
    · rw [List.mem_singleton.1 member]
      exact holds

theorem replace (orderly : entries.Orderly) (name : String) (holds : value.Orderly) :
    (entries.replace name value).Orderly where
  distinct := by
    rw [names_replace]
    exact orderly.distinct
  each := by
    intro entry replaced
    obtain ⟨before, member, rfl⟩ := List.mem_map.1 replaced
    split
    · exact holds
    · exact orderly.each before member

theorem erase (orderly : entries.Orderly) (name : String) : (entries.erase name).Orderly where
  distinct := orderly.distinct.sublist (List.filter_sublist.map _)
  each entry member := orderly.each entry (List.mem_filter.1 member).1

end Entries.Orderly

namespace Entries

/-- A change that leaves tables in order. -/
def KeepsOrder (change : Entries → Option Entries) : Prop :=
  ∀ ⦃before after : Entries⦄, before.Orderly → change before = some after → after.Orderly

variable {key : Key} {value : Node} {values : Entries}

theorem keepsOrder_insert? (key : Key) (holds : value.Orderly) :
    KeepsOrder (insert? · key value) := by
  intro before after orderly inserted
  simp only [insert?] at inserted
  split at inserted
  · contradiction
  · rename_i missing
    cases inserted
    exact orderly.concat (not_mem_of_get?_eq_none (Option.not_isSome_iff_eq_none.1 missing)) holds

theorem keepsOrder_putTable? (key : Key) (span : Span) (holds : values.Orderly) :
    KeepsOrder (putTable? key span values) := by
  intro before after orderly put
  have puts : Entries.Orderly
      (before.erase key.name ++ [(key, .table (some span) .header values)]) :=
    (orderly.erase key.name).concat (not_mem_names_erase before key.name)
      (Node.orderly_table.2 holds)
  unfold putTable? at put
  split at put
  · cases put
    exact puts
  · cases put
    exact puts
  · contradiction

theorem keepsOrder_putRow? (key : Key) (span : Span) (holds : values.Orderly) :
    KeepsOrder (putRow? key span values) := by
  intro before after orderly put
  unfold putRow? at put
  split at put
  · rename_i missing
    cases put
    refine orderly.concat (not_mem_of_get?_eq_none missing) (Node.orderly_rows.2 ?_)
    rintro row member
    rw [List.mem_singleton.1 member]
    exact holds
  · rename_i tables found
    cases put
    refine orderly.replace key.name (Node.orderly_rows.2 ?_)
    intro row member
    rcases List.mem_append.1 member with member | member
    · exact Node.orderly_rows.1 (orderly.of_get? found) row member
    · rw [List.mem_singleton.1 member]
      exact holds
  · contradiction

/-- A change at the end of a chain of names keeps all tables on the way in order. -/
theorem keepsOrder_alterAt (approach : Approach) {change : Entries → Option Entries}
    (keeps : KeepsOrder change) (path : List Key) : KeepsOrder (alterAt approach change path) := by
  induction path with
  | nil => exact keeps
  | cons key path ih =>
    intro before after orderly altered
    rw [alterAt] at altered
    split at altered
    · rename_i missing
      obtain ⟨inner, within, rfl⟩ := Option.map_eq_some_iff.1 altered
      exact orderly.concat (not_mem_of_get?_eq_none missing)
        (Node.orderly_table.2 (ih .nil within))
    · rename_i span origin inner found
      have table := Node.orderly_table.1 (orderly.of_get? found)
      split at altered
      · obtain ⟨changed, within, rfl⟩ := Option.map_eq_some_iff.1 altered
        exact orderly.replace key.name (Node.orderly_table.2 (ih table within))
      · contradiction
    · rename_i tables found
      have rows := Node.orderly_rows.1 (orderly.of_get? found)
      split at altered
      · rename_i span inner last
        obtain ⟨changed, within, rfl⟩ := Option.map_eq_some_iff.1 altered
        refine orderly.replace key.name (Node.orderly_rows.2 ?_)
        intro row member
        rcases List.mem_append.1 member with member | member
        · exact rows row (List.dropLast_subset tables member)
        · rw [List.mem_singleton.1 member]
          exact ih (rows _ (List.mem_of_getLast? last)) within
      · contradiction
    · contradiction

theorem keepsOrder_assign? (path : List Key) (key : Key) (holds : value.Orderly) :
    KeepsOrder (assign? path key value) :=
  keepsOrder_alterAt .dottedName (keepsOrder_insert? key holds) path

theorem Orderly.along {entries : Entries} (orderly : entries.Orderly) (path : List Key) :
    (entries.along path).Orderly := by
  induction path generalizing entries with
  | nil => exact orderly
  | cons key path ih =>
    rw [Entries.along]
    split
    · rename_i found
      exact ih (Node.orderly_table.1 (orderly.of_get? found))
    · rename_i tables found
      refine ih ?_
      cases last : tables.getLast? with
      | none => exact .nil
      | some row =>
        exact Node.orderly_rows.1 (orderly.of_get? found) row (List.mem_of_getLast? last)
    · exact .nil

theorem Orderly.announced {entries : Entries} (orderly : entries.Orderly) (key : Key) :
    (entries.announced key).Orderly := by
  rw [Entries.announced]
  split
  · rename_i found
    exact Node.orderly_table.1 (orderly.of_get? found)
  · exact .nil

end Entries

/-! ### Reading values -/

/-- Whatever is read has the property. -/
def Reader.Gives {α : Type} (reader : Reader α) (holds : α → Prop) : Prop :=
  ∀ ⦃text rest : List Char⦄ ⦃value : α⦄, reader text = some (value, rest) → holds value

theorem gives_readInteger :
    Reader.Gives readInteger (fun value => Word.isSigned value = true) := by
  intro text rest value given
  -- checking a step by computation would count out the bounds of the range
  simp -implicitDefEqProofs only [readInteger, Option.bind_eq_bind] at given
  split at given
  · obtain ⟨⟨digits, left⟩, -, given⟩ := Option.bind_eq_some_iff.1 given
    simp -implicitDefEqProofs only [Option.bind_some, Option.ite_none_right_eq_some] at given
    obtain ⟨signed, same⟩ := given
    rw [← (Prod.mk.inj (Option.some.inj same)).1]
    exact signed
  · obtain ⟨⟨digits, left⟩, -, given⟩ := Option.bind_eq_some_iff.1 given
    simp -implicitDefEqProofs only [Option.bind_some, Option.ite_none_right_eq_some] at given
    obtain ⟨signed, same⟩ := given
    rw [← (Prod.mk.inj (Option.some.inj same)).1]
    exact signed

theorem gives_readScalar : Reader.Gives readScalar Scalar.Fits := by
  intro text rest value given
  unfold readScalar at given
  split at given
  · obtain ⟨⟨content, left⟩, -, same⟩ := Option.map_eq_some_iff.1 given
    cases same
    trivial
  · obtain ⟨⟨content, left⟩, -, same⟩ := Option.map_eq_some_iff.1 given
    cases same
    trivial
  · cases given
    trivial
  · cases given
    trivial
  · unfold readNumeric at given
    split at given
    · cases given
      trivial
    · split at given
      · cases given
        trivial
      · obtain ⟨⟨number, after⟩, read, same⟩ := Option.map_eq_some_iff.1 given
        cases same
        exact gives_readInteger read

theorem gives_readElements {element : Reader Node} (gives : element.Gives Node.Orderly)
    (count : Nat) :
    Reader.Gives (readElements element count)
      (fun elements => ∀ node ∈ elements, node.Orderly) := by
  induction count with
  | zero => exact nofun
  | succ count ih =>
    intro text rest elements given
    unfold readElements at given
    obtain ⟨text, -, given⟩ := Option.bind_eq_some_iff.1 given
    split at given
    · cases given
      exact nofun
    · obtain ⟨⟨first, left⟩, read, given⟩ := Option.bind_eq_some_iff.1 given
      obtain ⟨left, -, given⟩ := Option.bind_eq_some_iff.1 given
      have firstOrderly := gives read
      split at given
      · obtain ⟨⟨others, left⟩, more, given⟩ := Option.bind_eq_some_iff.1 given
        cases given
        exact List.forall_mem_cons.2 ⟨firstOrderly, ih more⟩
      · cases given
        exact List.forall_mem_cons.2 ⟨firstOrderly, nofun⟩
      · contradiction

theorem gives_readAssignment {value : Reader Node} (gives : value.Gives Node.Orderly) :
    Reader.Gives (readAssignment value) (fun assignment => assignment.2.2.Orderly) := by
  intro text rest assignment given
  obtain ⟨⟨⟨path, key⟩, left⟩, -, given⟩ := Option.bind_eq_some_iff.1 given
  obtain ⟨left, -, given⟩ := Option.bind_eq_some_iff.1 given
  obtain ⟨⟨node, left⟩, read, given⟩ := Option.bind_eq_some_iff.1 given
  cases given
  exact gives read

theorem gives_readFields {value : Reader Node} (gives : value.Gives Node.Orderly) (count : Nat)
    {entries : Entries} (orderly : entries.Orderly) :
    Reader.Gives (readFields value count entries) Entries.Orderly := by
  induction count generalizing entries with
  | zero => exact nofun
  | succ count ih =>
    intro text rest result given
    unfold readFields at given
    obtain ⟨⟨⟨path, key, node⟩, left⟩, read, given⟩ := Option.bind_eq_some_iff.1 given
    obtain ⟨assigned, assigns, given⟩ := Option.bind_eq_some_iff.1 given
    have stays :=
      Entries.keepsOrder_assign? path key (gives_readAssignment gives read) orderly assigns
    split at given
    · exact ih stays given
    · cases given
      exact stays
    · contradiction

theorem gives_readBraces {value : Reader Node} (gives : value.Gives Node.Orderly) :
    Reader.Gives (readBraces value) Entries.Orderly := by
  intro text rest entries given
  unfold readBraces at given
  split at given
  · cases given
    exact .nil
  · exact gives_readFields gives text.length .nil given

theorem gives_readValue (depth : Nat) : Reader.Gives (readValue depth) Node.Orderly := by
  induction depth with
  | zero =>
    intro text rest node given
    unfold readValue at given
    obtain ⟨⟨value, left⟩, read, same⟩ := Option.map_eq_some_iff.1 given
    cases same
    exact .scalar _ (gives_readScalar read)
  | succ depth ih =>
    intro text rest node given
    unfold readValue at given
    split at given
    · rename_i inner _ depth_eq
      cases depth_eq
      obtain ⟨⟨elements, left⟩, read, same⟩ := Option.map_eq_some_iff.1 given
      cases same
      exact .array _ (gives_readElements ih _ read)
    · rename_i inner _ depth_eq
      cases depth_eq
      obtain ⟨⟨entries, left⟩, read, same⟩ := Option.map_eq_some_iff.1 given
      cases same
      exact Node.orderly_table.2 (gives_readBraces ih read)
    · obtain ⟨⟨value, left⟩, read, same⟩ := Option.map_eq_some_iff.1 given
      cases same
      exact .scalar _ (gives_readScalar read)

/-! ### Reading documents -/

/-- A statement that gives a value in order, if it gives one. -/
def Statement.Orderly : Statement → Prop
  | .header .. => True
  | .assignment _ _ value => value.Orderly

theorem gives_readHeader : Reader.Gives readHeader Statement.Orderly := by
  intro text rest statement given
  obtain ⟨left, -, given⟩ := Option.bind_eq_some_iff.1 given
  split at given
  · obtain ⟨⟨⟨path, key⟩, left⟩, -, given⟩ := Option.bind_eq_some_iff.1 given
    obtain ⟨left, -, given⟩ := Option.bind_eq_some_iff.1 given
    obtain ⟨left, -, given⟩ := Option.bind_eq_some_iff.1 given
    cases given
    trivial
  · obtain ⟨⟨⟨path, key⟩, left⟩, -, given⟩ := Option.bind_eq_some_iff.1 given
    obtain ⟨left, -, given⟩ := Option.bind_eq_some_iff.1 given
    cases given
    trivial

theorem gives_readStatement : Reader.Gives readStatement Statement.Orderly := by
  intro text rest statement given
  unfold readStatement at given
  split at given
  · exact gives_readHeader given
  · obtain ⟨⟨⟨path, key, value⟩, left⟩, read, same⟩ := Option.map_eq_some_iff.1 given
    cases same
    exact gives_readAssignment (gives_readValue deepest) read

theorem orderly_of_readStatements {count : Nat} {text : List Char} {statements : List Statement}
    (read : readStatements count text = some statements) :
    ∀ statement ∈ statements, statement.Orderly := by
  fun_induction readStatements count text generalizing statements with
  | case1 =>
    cases read
    exact nofun
  | case2 => contradiction
  | case3 count text nonempty rest skipped ih => exact ih read
  | case4 count text nonempty stays ih =>
    obtain ⟨⟨statement, left⟩, first, read⟩ := Option.bind_eq_some_iff.1 read
    obtain ⟨left, -, read⟩ := Option.bind_eq_some_iff.1 read
    obtain ⟨others, more, same⟩ := Option.bind_eq_some_iff.1 read
    cases same
    exact List.forall_mem_cons.2 ⟨gives_readStatement first, ih left more⟩

/-- A draft of which all that is there is in order. -/
structure Draft.Orderly (draft : Draft) : Prop where
  closed : draft.closed.Orderly
  values : draft.values.Orderly

namespace Draft.Orderly

variable {draft : Draft}

theorem close? (orderly : draft.Orderly) {entries : Entries}
    (closes : draft.close? = some entries) : entries.Orderly := by
  unfold Draft.close? at closes
  split at closes
  · cases closes
    exact orderly.values
  · exact Entries.keepsOrder_alterAt .header (Entries.keepsOrder_putTable? _ _ orderly.values) _
      orderly.closed closes
  · exact Entries.keepsOrder_alterAt .header (Entries.keepsOrder_putRow? _ _ orderly.values) _
      orderly.closed closes

/-- A statement leaves the draft in order. -/
theorem add? (orderly : draft.Orderly) {statement : Statement} (holds : statement.Orderly)
    {next : Draft} (added : draft.add? statement = some next) : next.Orderly := by
  cases statement with
  | header isRow path key span =>
    obtain ⟨closed, closes, added⟩ := Option.bind_eq_some_iff.1 added
    have stays := orderly.close? closes
    split at added
    · cases added
      exact ⟨stays, .nil⟩
    · cases added
      exact ⟨stays, (stays.along path).announced key⟩
  | assignment path key value =>
    obtain ⟨values, assigns, added⟩ := Option.bind_eq_some_iff.1 added
    cases added
    exact ⟨orderly.closed, Entries.keepsOrder_assign? path key holds orderly.values assigns⟩

end Draft.Orderly

theorem Draft.Orderly.foldlM {statements : List Statement} {draft last : Draft}
    (orderly : draft.Orderly) (holds : ∀ statement ∈ statements, statement.Orderly)
    (added : statements.foldlM Draft.add? draft = some last) : last.Orderly := by
  induction statements generalizing draft with
  | nil =>
    cases added
    exact orderly
  | cons statement statements ih =>
    rw [List.foldlM_cons] at added
    obtain ⟨next, first, rest⟩ := Option.bind_eq_some_iff.1 added
    obtain ⟨statementHolds, othersHold⟩ := List.forall_mem_cons.1 holds
    exact ih (orderly.add? statementHolds first) othersHold rest

/-- The tables of a document are in order. -/
theorem orderly_of_parse {text : List Char} {entries : Entries}
    (parsed : parse text = some entries) : entries.Orderly := by
  obtain ⟨statements, read, made⟩ := Option.bind_eq_some_iff.1 parsed
  obtain ⟨draft, added, closes⟩ := Option.bind_eq_some_iff.1 made
  have started : Draft.start.Orderly := ⟨.nil, .nil⟩
  exact (started.foldlM (orderly_of_readStatements read) added).close? closes

end LineEcho.Toml
