import LineEcho.Config.OfToml
import LineEcho.Proofs.Toml.Orderly

/-!
# What values mean to settings

Whether a value is what a setting needs, and what is stored then, depends on what the value says and
not on where it stands.  Two values that differ in their places only are the same to every setting.
-/

namespace LineEcho

open Toml (Span Node Entries)

/-- What a value says to the setting that it is for, wherever it stands. -/
inductive Meaning
  | text (content : String)
  | integer (value : Int)
  | flag (value : Bool)
  | choice (endings : LineEndings)
  | other
  deriving DecidableEq

namespace Meaning

def text? : Meaning → Option String
  | text content => some content
  | _ => none

def integer? : Meaning → Option Int
  | integer value => some value
  | _ => none

def flag? : Meaning → Option Bool
  | flag value => some value
  | _ => none

/-- A variant by its name, or as a table that holds nothing under its name. -/
def endings? : Meaning → Option LineEndings
  | text content => LineEndings.ofName? content
  | choice endings => some endings
  | _ => none

def natural? (meaning : Meaning) : Option Nat :=
  (meaning.integer?.filter (fun value => 0 ≤ value)).map Int.toNat

def port? (meaning : Meaning) : Option UInt16 :=
  (meaning.natural?.filter (fun value => value ≤ 65535)).map UInt16.ofNat

def backlog? (meaning : Meaning) : Option UInt32 :=
  (meaning.natural?.filter (fun value => value ≤ 4294967295)).map UInt32.ofNat

def size? (meaning : Meaning) : Option UInt64 :=
  meaning.natural?.map UInt64.ofNat

def timeout? (meaning : Meaning) : Option (Option UInt64) :=
  meaning.size?.map some

end Meaning

/-- The variant that is the only name of a table, with nothing under it. -/
def Toml.Entries.choice? : Entries → Option LineEndings
  | [(key, value)] => if ValueReader.isHollow value then LineEndings.ofName? key.name else none
  | _ => none

def Toml.Node.meaning : Node → Meaning
  | .scalar _ (.text content) => .text content
  | .scalar _ (.integer value) => .integer value
  | .scalar _ (.boolean value) => .flag value
  | .table _ _ entries => (Entries.choice? entries).elim .other .choice
  | _ => .other

namespace ValueReader

variable {α β : Type}

/-- A reader takes a value for what it is to be read as, and refuses it if that is nothing. -/
def Follows (reader : ValueReader α) (read : Node → Option α) (node : Node) : Prop :=
  ∀ span, (reader span node).toOption = read node

theorem toOption_map (give : α → β) (result : Except TomlError α) :
    (give <$> result).toOption = result.toOption.map give := by
  cases result <;> rfl

/-- A table says at most which variant is chosen. -/
theorem read_table {read : Meaning → Option α} (other : read .other = none)
    (choice : ∀ endings, read (.choice endings) = none) (span : Option Span)
    (origin : Toml.Origin) (entries : Entries) :
    read (Node.table span origin entries).meaning = none := by
  rw [Node.meaning]
  cases entries.choice? with
  | none => exact other
  | some endings => exact choice endings

theorem follows_text (node : Node) : text.Follows (fun node => node.meaning.text?) node := by
  intro span
  cases node with
  | scalar place value => cases value <;> rfl
  | array place elements => rfl
  | table place origin entries =>
    exact (@read_table _ Meaning.text? rfl (fun _ => rfl) place origin entries).symm
  | rows tables => rfl

theorem follows_flag (node : Node) : flag.Follows (fun node => node.meaning.flag?) node := by
  intro span
  cases node with
  | scalar place value => cases value <;> rfl
  | array place elements => rfl
  | table place origin entries =>
    exact (@read_table _ Meaning.flag? rfl (fun _ => rfl) place origin entries).symm
  | rows tables => rfl

theorem follows_endings (node : Node) :
    endings.Follows (fun node => node.meaning.endings?) node := by
  have named (span : Span) (name : String) :
      (endingsOf span name).toOption = LineEndings.ofName? name := by
    unfold endingsOf
    split <;> simp_all [Except.toOption]
  intro span
  cases node with
  | scalar place value =>
    cases value with
    | text content => exact named span content
    | _ => rfl
  | array place elements => rfl
  | table place origin entries =>
    match entries with
    | [] => rfl
    | [(key, value)] =>
      have chosen := named key.span key.name
      simp only [endings, Node.meaning, Entries.choice?]
      rw [← chosen]
      cases endingsOf key.span key.name <;> cases isHollow value <;> rfl
    | _ :: _ :: _ => rfl
  | rows tables => rfl

theorem follows_natural (bound : Nat) (expected : String) (node : Node) :
    (natural bound expected).Follows
      (fun node => node.meaning.natural?.filter (fun value => value < bound)) node := by
  intro span
  cases node with
  | scalar place value =>
    cases value with
    | integer value =>
      simp only [natural, Node.meaning, Meaning.natural?, Meaning.integer?, Option.filter_some]
      by_cases positive : 0 ≤ value
      · have below : value < bound ↔ value.toNat < bound := by omega
        by_cases fits : value < bound
        · simp [positive, fits, below.1 fits, Option.filter_some, Except.toOption]
        · simp [positive, fits, mt below.2 fits, Option.filter_some, Except.toOption]
      · simp [positive, Except.toOption]
    | _ => rfl
  | array place elements => rfl
  | table place origin entries =>
    exact (@read_table _ (fun meaning => meaning.natural?.filter (fun value => value < bound)) rfl
      (fun _ => rfl) place origin entries).symm
  | rows tables => rfl

theorem follows_port (node : Node) : port.Follows (fun node => node.meaning.port?) node := by
  intro span
  rw [port, toOption_map, follows_natural]
  simp only [Meaning.port?, UInt16.size, Nat.lt_succ_iff]

theorem follows_backlog (node : Node) :
    backlog.Follows (fun node => node.meaning.backlog?) node := by
  intro span
  rw [backlog, toOption_map, follows_natural]
  simp only [Meaning.backlog?, UInt32.size, Nat.lt_succ_iff]

theorem isSigned_of_orderly {node : Node} (orderly : node.Orderly) {value : Int}
    (means : node.meaning.integer? = some value) : Word.isSigned value = true := by
  cases orderly with
  | @scalar place scalar fits =>
    cases scalar with
    | integer number =>
      cases means
      exact fits
    | _ => contradiction
  | array => contradiction
  | table place origin distinct each =>
    rw [@read_table _ Meaning.integer? rfl (fun _ => rfl)] at means
    contradiction
  | rows => contradiction

/-- No integer of a document is too great for an unsigned one of 64 bits. -/
theorem lt_size_of_orderly {node : Node} (orderly : node.Orderly) {value : Nat}
    (means : node.meaning.natural? = some value) : value < UInt64.size := by
  obtain ⟨number, positive, rfl⟩ := Option.map_eq_some_iff.1 means
  obtain ⟨same, -⟩ := Option.filter_eq_some_iff.1 positive
  have signed := isSigned_of_orderly orderly same
  rw [Word.isSigned, Bool.and_eq_true, decide_eq_true_eq, decide_eq_true_eq] at signed
  have below : number.toNat ≤ Word.signedBound := Int.toNat_le.2 (Int.le_of_lt signed.2)
  exact Nat.lt_of_le_of_lt below (by decide)

theorem follows_natural_of_orderly {node : Node} (orderly : node.Orderly) (expected : String) :
    (natural UInt64.size expected).Follows (fun node => node.meaning.natural?) node := by
  intro span
  rw [follows_natural UInt64.size expected node span]
  dsimp only
  cases means : node.meaning.natural? with
  | none => rfl
  | some value =>
    rw [Option.filter_some, if_pos (decide_eq_true (lt_size_of_orderly orderly means))]

theorem follows_size {node : Node} (orderly : node.Orderly) :
    size.Follows (fun node => node.meaning.size?) node := by
  intro span
  rw [size, toOption_map, follows_natural_of_orderly orderly]
  rfl

theorem follows_timeout {node : Node} (orderly : node.Orderly) :
    timeout.Follows (fun node => node.meaning.timeout?) node := by
  intro span
  rw [timeout, toOption_map, follows_natural_of_orderly orderly]
  exact (Option.map_map _ _ _).symm

end ValueReader

end LineEcho
