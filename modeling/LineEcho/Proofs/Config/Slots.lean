import LineEcho.Proofs.Config.Meaning

/-!
# Tables of settings

A table sets one field after another, in its own order.  As fields with different names are about
different parts of the settings, it might as well set them in any other order: what comes out is
the same as if each field were looked up in the table in its turn.
-/

namespace LineEcho

open Toml (Span Node Entries)

/-- A table is read by its first value, and then by the others. -/
theorem FieldReader.setNamed_cons_eq {α : Type} (fields : List (FieldReader α)) (settings : α)
    (key : Toml.Key) (node : Node) (entries : Entries) :
    setNamed fields settings ((key, node) :: entries) =
      match fields.find? (fun field => field.name == key.name) with
      | some field =>
        (field.set settings (node.span?.getD key.span) node).bind
          (fun next => setNamed fields next entries)
      | none => setNamed fields settings entries := by
  rw [setNamed, List.foldlM_cons]
  cases found : fields.find? (fun field => field.name == key.name) with
  | none =>
    simp only [found]
    rfl
  | some field =>
    simp only [found]
    rfl

/-- A field of a group of settings, as what its value is to be read as, and with the part of the
settings that it is about. -/
structure Slot (α : Type) where
  Value : Type
  name : String
  reader : ValueReader Value
  read : Node → Option Value
  get : α → Value
  store : α → Value → α
  store_get : ∀ settings, store settings (get settings) = settings

namespace Slot

variable {α : Type} {slot other : Slot α} {slots : List (Slot α)} {entries : Entries}

def field (slot : Slot α) : FieldReader α :=
  .of slot.name slot.reader slot.store

@[simp]
theorem name_field : slot.field.name = slot.name :=
  rfl

/-- What is named can be read. -/
def Fits (slot : Slot α) (entries : Entries) : Prop :=
  ∀ node, entries.get? slot.name = some node → (slot.read node).isSome = true

/-- What is named for a field, if it can be read. -/
def named? (slot : Slot α) (entries : Entries) : Option slot.Value :=
  (entries.get? slot.name).bind slot.read

/-- The settings with what is named for a field in its part, which stays as it is otherwise. -/
def put (entries : Entries) (settings : α) (slot : Slot α) : α :=
  slot.store settings ((slot.named? entries).getD (slot.get settings))

/-- Two fields with different names that are about different parts. -/
structure Apart (slot other : Slot α) : Prop where
  name_ne : slot.name ≠ other.name
  store_comm : ∀ settings value otherValue,
    other.store (slot.store settings value) otherValue =
      slot.store (other.store settings otherValue) value

theorem put_of_none {settings : α} (nothing : slot.named? entries = none) :
    put entries settings slot = settings := by
  rw [put, nothing]
  exact slot.store_get settings

theorem put_of_some {settings : α} {value : slot.Value} (named : slot.named? entries = some value) :
    put entries settings slot = slot.store settings value := by
  rw [put, named, Option.getD_some]

/-- What is stored in one part does not disturb another one. -/
theorem put_store (apart : other.Apart slot) (settings : α) (value : slot.Value) :
    put entries (slot.store settings value) other =
      slot.store (put entries settings other) value := by
  cases named : other.named? entries with
  | none => rw [put_of_none named, put_of_none named]
  | some otherValue =>
    rw [put_of_some named, put_of_some named]
    exact (apart.store_comm settings otherValue value).symm

theorem foldl_put_store (apart : ∀ other ∈ slots, other.Apart slot) (settings : α)
    (value : slot.Value) :
    slots.foldl (put entries) (slot.store settings value) =
      slot.store (slots.foldl (put entries) settings) value := by
  induction slots generalizing settings with
  | nil => rfl
  | cons other others ih =>
    obtain ⟨otherApart, othersApart⟩ := List.forall_mem_cons.1 apart
    rw [List.foldl_cons, List.foldl_cons, put_store otherApart, ih othersApart]

/-! One more named value. -/

variable {key : Toml.Key} {node : Node}

theorem named?_cons_of_ne (differs : slot.name ≠ key.name) :
    slot.named? ((key, node) :: entries) = slot.named? entries := by
  rw [named?, Entries.get?_cons_of_ne differs]
  rfl

theorem fits_cons_of_ne (differs : slot.name ≠ key.name) :
    slot.Fits ((key, node) :: entries) ↔ slot.Fits entries := by
  rw [Fits, Entries.get?_cons_of_ne differs]
  rfl

theorem put_cons_of_ne (differs : slot.name ≠ key.name) (settings : α) :
    put ((key, node) :: entries) settings slot = put entries settings slot := by
  rw [put, named?_cons_of_ne differs]
  rfl

theorem foldl_put_cons_of_ne (differ : ∀ slot ∈ slots, slot.name ≠ key.name) (settings : α) :
    slots.foldl (put ((key, node) :: entries)) settings = slots.foldl (put entries) settings := by
  induction slots generalizing settings with
  | nil => rfl
  | cons slot others ih =>
    obtain ⟨differs, othersDiffer⟩ := List.forall_mem_cons.1 differ
    rw [List.foldl_cons, List.foldl_cons, put_cons_of_ne differs, ih othersDiffer]

/-- It does not matter whether a value is stored first or when it is the turn of its field. -/
theorem foldl_put_cons (apart : slots.Pairwise Apart) (member : slot ∈ slots)
    (same : slot.name = key.name) (missing : key.name ∉ entries.names) {value : slot.Value}
    (means : slot.read node = some value) (settings : α) :
    slots.foldl (put entries) (slot.store settings value) =
      slots.foldl (put ((key, node) :: entries)) settings := by
  obtain ⟨before, later, rfl⟩ := List.append_of_mem member
  obtain ⟨-, apartLater, apartAcross⟩ := List.pairwise_append.1 apart
  have apartBefore : ∀ other ∈ before, other.Apart slot :=
    fun other earlier => apartAcross other earlier slot (List.mem_cons_self ..)
  have nothing : slot.named? entries = none := by
    rw [named?, same, Entries.get?_of_not_mem missing]
    rfl
  have named : slot.named? ((key, node) :: entries) = some value := by
    rw [named?, same, Entries.get?_cons_self]
    exact means
  have beforeDiffer : ∀ other ∈ before, other.name ≠ key.name :=
    fun other earlier => same ▸ (apartBefore other earlier).name_ne
  have laterDiffer : ∀ other ∈ later, other.name ≠ key.name :=
    fun other after => same ▸ ((List.pairwise_cons.1 apartLater).1 other after).name_ne.symm
  simp only [List.foldl_append, List.foldl_cons]
  rw [foldl_put_store apartBefore, put_of_none nothing, foldl_put_cons_of_ne beforeDiffer,
    put_of_some named, foldl_put_cons_of_ne laterDiffer]

theorem eq_of_name_eq (apart : slots.Pairwise Apart) (member : slot ∈ slots)
    (also : other ∈ slots) (same : other.name = slot.name) : other = slot := by
  obtain ⟨before, later, rfl⟩ := List.append_of_mem member
  obtain ⟨-, apartLater, apartAcross⟩ := List.pairwise_append.1 apart
  rcases List.mem_append.1 also with earlier | after
  · exact absurd same (apartAcross other earlier slot (List.mem_cons_self ..)).name_ne
  · rcases List.mem_cons.1 after with rfl | after
    · rfl
    · exact absurd same.symm ((List.pairwise_cons.1 apartLater).1 other after).name_ne

theorem forall_fits_cons (apart : slots.Pairwise Apart) (member : slot ∈ slots)
    (same : slot.name = key.name) (missing : key.name ∉ entries.names) :
    (∀ slot ∈ slots, slot.Fits ((key, node) :: entries)) ↔
      (slot.read node).isSome = true ∧ ∀ slot ∈ slots, slot.Fits entries := by
  constructor
  · intro fit
    refine ⟨fit slot member node (same ▸ Entries.get?_cons_self key node entries), ?_⟩
    intro other also
    by_cases differs : other.name = key.name
    · intro value found
      rw [differs, Entries.get?_of_not_mem missing] at found
      contradiction
    · exact (fits_cons_of_ne differs).1 (fit other also)
  · rintro ⟨means, fit⟩ other also
    by_cases differs : other.name = key.name
    · obtain rfl := eq_of_name_eq apart member also (differs.trans same.symm)
      intro value found
      rw [same, Entries.get?_cons_self] at found
      cases found
      exact means
    · exact (fits_cons_of_ne differs).2 (fit other also)

theorem foldl_put_nil (settings : α) : slots.foldl (put []) settings = settings := by
  induction slots with
  | nil => rfl
  | cons slot others ih =>
    rw [List.foldl_cons, put_of_none rfl]
    exact ih

/-- **A table is read** just if every field that it names can be read, and it comes out as if each
field were read in its turn. -/
theorem setNamed_eq_ok_iff (apart : slots.Pairwise Apart) (distinct : entries.names.Nodup)
    (follows : ∀ slot ∈ slots, ∀ entry ∈ entries, entry.1.name = slot.name →
      slot.reader.Follows slot.read entry.2) {settings result : α} :
    FieldReader.setNamed (slots.map field) settings entries = .ok result ↔
      (∀ slot ∈ slots, slot.Fits entries) ∧ result = slots.foldl (put entries) settings := by
  induction entries generalizing settings with
  | nil =>
    have fit : ∀ slot ∈ slots, slot.Fits [] := fun _ _ => nofun
    rw [foldl_put_nil, FieldReader.setNamed, List.foldlM_nil]
    exact ⟨fun same => ⟨fit, (Except.ok.inj same).symm⟩, fun ⟨_, same⟩ => congrArg _ same.symm⟩
  | cons entry entries ih =>
    obtain ⟨key, node⟩ := entry
    obtain ⟨missing, distinct⟩ := List.nodup_cons.1 distinct
    have ih (settings : α) := @ih distinct
      (fun slot member entry present => follows slot member entry (List.mem_cons_of_mem _ present))
      settings
    rw [FieldReader.setNamed_cons_eq, List.find?_map]
    cases found : slots.find? ((fun field => field.name == key.name) ∘ field) with
    | none =>
      have differ : ∀ slot ∈ slots, slot.name ≠ key.name := by
        intro slot member
        simpa using List.find?_eq_none.1 found slot member
      have fit_iff : (∀ slot ∈ slots, slot.Fits ((key, node) :: entries)) ↔
          ∀ slot ∈ slots, slot.Fits entries :=
        forall₂_congr fun slot member => fits_cons_of_ne (differ slot member)
      rw [foldl_put_cons_of_ne differ, fit_iff]
      exact ih settings
    | some slot =>
      have member := List.mem_of_find?_eq_some found
      have same : slot.name = key.name := by simpa using List.find?_some found
      have reads := follows slot member (key, node) (List.mem_cons_self ..) same.symm
        (node.span?.getD key.span)
      rw [forall_fits_cons apart member same missing]
      show (slot.store settings <$> slot.reader _ node).bind _ = _ ↔ _
      cases given : slot.reader (node.span?.getD key.span) node with
      | error error =>
        have nothing : slot.read node = none := by rw [← reads, given]; rfl
        refine iff_of_false nofun ?_
        rintro ⟨⟨means, -⟩, -⟩
        rw [nothing] at means
        contradiction
      | ok value =>
        have means : slot.read node = some value := by rw [← reads, given]; rfl
        rw [← foldl_put_cons apart member same missing means, means]
        simp only [Option.isSome_some, true_and]
        exact ih (slot.store settings value)

end Slot

end LineEcho
