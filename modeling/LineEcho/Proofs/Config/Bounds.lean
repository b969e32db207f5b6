import LineEcho.Proofs.Config.Meaning
import LineEcho.Proofs.Config.Precedence
import LineEcho.Proofs.Config.Settings

/-!
# Whatever loads can be shown

An integer of a document has 64 bits and a sign, so no count that comes from one is too great to be
written into another, and neither is any of the default.  Hence a configuration that has been
loaded, in whatever shape its document gave it, can be shown in every format.
-/

namespace LineEcho

open Toml (Span Node Entries)

namespace ValueReader

variable {α β : Type}

/-- Whatever is read from a value in order has the property. -/
def Yields (reader : ValueReader α) (holds : α → Prop) : Prop :=
  ∀ ⦃span : Span⦄ ⦃node : Node⦄ ⦃value : α⦄,
    node.Orderly → reader span node = .ok value → holds value

theorem Yields.map {reader : ValueReader α} {holds : α → Prop} (yields : reader.Yields holds)
    {give : α → β} {after : β → Prop} (gives : ∀ value, holds value → after (give value)) :
    Yields (fun span node => give <$> reader span node) after := by
  intro span node result orderly read
  dsimp only at read
  cases given : reader span node with
  | error error =>
    rw [given] at read
    contradiction
  | ok value =>
    rw [given] at read
    cases read
    exact gives value (yields orderly given)

theorem yields_natural (bound : Nat) (expected : String) :
    (natural bound expected).Yields (· ≤ Word.greatestSigned) := by
  intro span node value orderly read
  unfold natural at read
  split at read
  · rename_i place number
    cases orderly with
    | scalar _ fits =>
      have signed : Word.isSigned number = true := fits
      rw [Word.isSigned, Bool.and_eq_true, decide_eq_true_eq, decide_eq_true_eq] at signed
      split at read
      · cases read
        exact Int.toNat_le.2 (Int.le_of_lt_add_one signed.2)
      · contradiction
  · contradiction

theorem toNat_ofNat_le {value : Nat} (fits : value ≤ Word.greatestSigned) :
    (UInt64.ofNat value).toNat ≤ Word.greatestSigned :=
  Nat.le_trans (Nat.mod_le _ _) fits

theorem yields_size : size.Yields (fun count => count.toNat ≤ Word.greatestSigned) :=
  (yields_natural _ _).map fun _ => toNat_ofNat_le

theorem yields_timeout : timeout.Yields Holdable := by
  refine (yields_natural _ _).map fun value fits => ?_
  rintro _ ⟨⟩
  exact toNat_ofNat_le fits

end ValueReader

namespace FieldReader

variable {α β : Type} {holds : α → Prop} {fields : List (FieldReader α)}

/-- Setting a field to a value in order keeps a property of the settings. -/
def Keeps (field : FieldReader α) (holds : α → Prop) : Prop :=
  ∀ ⦃settings : α⦄, holds settings → (field.set settings).Yields holds

theorem keeps_of {read : ValueReader β} {fits : β → Prop} (yields : read.Yields fits)
    (name : String) {store : α → β → α}
    (stores : ∀ settings value, holds settings → fits value → holds (store settings value)) :
    (of name read store).Keeps holds :=
  fun settings kept => yields.map fun value => stores settings value kept

/-- A field that the property is not about. -/
theorem keeps_of_other (name : String) (read : ValueReader β) {store : α → β → α}
    (stores : ∀ settings value, holds settings → holds (store settings value)) :
    (of name read store).Keeps holds := by
  have anything : read.Yields (fun _ => True) := fun _ _ _ _ _ => trivial
  exact keeps_of anything name fun settings value kept _ => stores settings value kept

theorem holds_of_setNamed (keep : ∀ field ∈ fields, field.Keeps holds) {entries : Entries}
    (orderly : ∀ entry ∈ entries, entry.2.Orderly) {settings result : α} (kept : holds settings)
    (set : setNamed fields settings entries = .ok result) : holds result := by
  refine holds_of_foldlM holds ?_ kept set
  rintro ⟨key, node⟩ member before after kept set
  dsimp only at set
  split at set
  · rename_i field found
    exact keep field (List.mem_of_find?_eq_some found) kept (orderly (key, node) member) set
  · cases set
    exact kept

theorem holds_of_setInOrder (keep : ∀ field ∈ fields, field.Keeps holds) {elements : List Node}
    (orderly : ∀ node ∈ elements, node.Orderly) {span : Span} {settings result : α}
    (kept : holds settings) (set : setInOrder span fields settings elements = .ok result) :
    holds result := by
  refine holds_of_foldlM holds ?_ kept set
  intro pair member before after kept set
  obtain ⟨known, given⟩ := List.of_mem_zip member
  exact keep pair.1 known kept (orderly pair.2 given) set

/-- A group keeps the property in whatever shape it is given. -/
theorem yields_setGroup (keep : ∀ field ∈ fields, field.Keeps holds) {unnamed : α}
    (kept : holds unnamed) (expected : String) :
    (setGroup expected fields unnamed).Yields holds := by
  intro span node result orderly set
  unfold setGroup at set
  split at set
  · exact holds_of_setNamed keep (Node.orderly_table.1 orderly).each kept set
  · cases orderly with
    | array _ each => exact holds_of_setInOrder keep each kept set
  · refine holds_of_setInOrder keep ?_ kept set
    intro row member
    obtain ⟨given, listed, rfl⟩ := List.mem_map.1 member
    exact Node.orderly_table.2 (Node.orderly_rows.1 orderly given listed)
  · cases set
    exact kept
  · contradiction

end FieldReader

open ValueReader FieldReader

theorem ServiceConfig.keep_fields : ∀ field ∈ fields, field.Keeps ServiceConfig.Fits := by
  simp only [fields, List.forall_mem_cons]
  exact ⟨keeps_of_other _ _ fun _ _ fits => ⟨fits.1, fits.2, fits.3⟩,
    keeps_of_other _ _ fun _ _ fits => ⟨fits.1, fits.2, fits.3⟩,
    keeps_of_other _ _ fun _ _ fits => ⟨fits.1, fits.2, fits.3⟩,
    keeps_of yields_size _ fun _ _ fits size => ⟨size, fits.2, fits.3⟩,
    keeps_of yields_timeout _ fun _ _ fits limit => ⟨fits.1, limit, fits.3⟩,
    keeps_of yields_timeout _ fun _ _ fits limit => ⟨fits.1, fits.2, limit⟩, nofun⟩

theorem ClientConfig.keep_fields : ∀ field ∈ fields, field.Keeps ClientConfig.Fits := by
  simp only [fields, List.forall_mem_cons]
  exact ⟨keeps_of_other _ _ fun _ _ fits => ⟨fits.1, fits.2, fits.3⟩,
    keeps_of_other _ _ fun _ _ fits => ⟨fits.1, fits.2, fits.3⟩,
    keeps_of yields_timeout _ fun _ _ fits limit => ⟨limit, fits.2, fits.3⟩,
    keeps_of yields_timeout _ fun _ _ fits limit => ⟨fits.1, limit, fits.3⟩,
    keeps_of yields_timeout _ fun _ _ fits limit => ⟨fits.1, fits.2, limit⟩,
    keeps_of_other _ _ fun _ _ fits => ⟨fits.1, fits.2, fits.3⟩,
    keeps_of_other _ _ fun _ _ fits => ⟨fits.1, fits.2, fits.3⟩,
    keeps_of_other _ _ fun _ _ fits => ⟨fits.1, fits.2, fits.3⟩, nofun⟩

namespace Config

theorem fits_default : (default : Config).Fits := by
  decide

theorem keep_fields : ∀ field ∈ fields, field.Keeps Config.Fits := by
  simp only [fields, List.forall_mem_cons]
  exact ⟨keeps_of_other _ _ fun _ _ fits => ⟨fits.1, fits.2⟩,
    keeps_of (yields_setGroup ServiceConfig.keep_fields fits_default.service _) _
      fun _ _ fits service => ⟨service, fits.2⟩,
    keeps_of (yields_setGroup ClientConfig.keep_fields fits_default.client _) _
      fun _ _ fits client => ⟨fits.1, client⟩, nofun⟩

theorem fits_of_ofToml {text : List Char} {config : Config} (read : ofToml text = .ok config) :
    config.Fits := by
  unfold ofToml at read
  split at read
  · rename_i entries parsed
    exact holds_of_setNamed keep_fields (Toml.orderly_of_parse parsed).each fits_default read
  · contradiction

theorem fits_of_load {fileSystem : FileSystem} {path : String} {config : Config}
    (loaded : load fileSystem path = .ok config) : config.Fits := by
  cases load_eq_iff.1 loaded with
  | valid reads parses passes => exact fits_of_ofToml parses

/-- A configuration whose counts can be written can be shown. -/
theorem render_of_fits {config : Config} (fits : config.Fits) (format : OutputFormat) :
    ∃ text, config.render format = .ok text := by
  cases format with
  | text =>
    rw [render, toToml?_of_fits config fits]
    exact ⟨_, rfl⟩
  | json => exact ⟨_, rfl⟩
  | table => exact ⟨_, rfl⟩

end Config

theorem ConfigLayers.fits_of_load {fileSystem : FileSystem} {layers : ConfigLayers}
    {config : Config} (loaded : layers.load fileSystem = .ok config) : config.Fits := by
  rw [load_eq_foldlM] at loaded
  refine holds_of_foldlM Config.Fits ?_ Config.fits_default loaded
  intro path _ before after kept next
  unfold loadLayer at next
  split at next
  · exact Config.fits_of_load next
  · cases next
    exact kept

end LineEcho
