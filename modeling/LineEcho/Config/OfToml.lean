import LineEcho.Config.Basic
import LineEcho.Text.Quoted
import LineEcho.Toml.Document

/-!
# Configurations from documents

A field that is missing has its own default, a group that is missing has the default of the group,
and unknown names are ignored. Besides a table, a group of settings may be an array of their values
in order, and the choice of line endings may be a table whose only name is the choice and whose
value is empty. `Config.ofToml` reports the first value, in the order of the document, that is not
what its field needs.
-/

namespace LineEcho

open Toml (Span Scalar Node Entries)

/-- Why a value is not what its field needs. -/
inductive Misfit
  | wrongType (found expected : String)
  | outOfRange (value : Int) (expected : String)
  | unknownEndings (name : String)
  | neitherTextNorTable
  | emptyChoice
  | manyChoices
  | filledChoice
  deriving DecidableEq, Repr

/-- Why a text gives no configuration: it is no document, or a value of it is not what its field
needs. -/
inductive TomlError
  | malformed
  | misfit (span : Span) (cause : Misfit)
  deriving DecidableEq, Repr

def Toml.Node.kind : Node → String
  | .scalar _ (.text content) => "string " ++ Text.quoted content
  | .scalar _ (.integer value) => "integer `" ++ toString value ++ "`"
  | .scalar _ (.floating value) => "floating point `" ++ value.text ++ "`"
  | .scalar _ (.boolean value) => "boolean `" ++ toString value ++ "`"
  | .scalar _ .moment => "map"
  | .array _ _ => "sequence"
  | .rows _ => "sequence"
  | .table _ _ _ => "map"

/-- The reason for a misfit, except for a choice with a value, which counts as malformed. -/
def Misfit.reason? : Misfit → Option String
  | wrongType found expected => some ("invalid type: " ++ found ++ ", expected " ++ expected)
  | outOfRange value expected =>
    some ("invalid value: integer `" ++ toString value ++ "`, expected " ++ expected)
  | unknownEndings name =>
    some ("unknown variant `" ++ name ++ "`, expected `preserve` or `normalize`")
  | neitherTextNorTable => some "wanted string or table"
  | emptyChoice => some "wanted exactly 1 element, found 0 elements"
  | manyChoices => some "wanted exactly 1 element, more than 1 element"
  | filledChoice => none

/-- The message of an error about a text. -/
def TomlError.message (text : List Char) : TomlError → String
  | malformed => "TOML syntax error"
  | misfit span cause =>
    match cause.reason? with
    | some reason => span.excerpt text ++ reason ++ "\n"
    | none => "TOML syntax error"

/-- Reads a value at a place. -/
abbrev ValueReader (α : Type) := Span → Node → Except TomlError α

namespace ValueReader

def refuse {α : Type} (expected : String) : ValueReader α := fun span node =>
  .error (.misfit span (.wrongType node.kind expected))

def text : ValueReader String
  | _, .scalar _ (.text content) => .ok content
  | span, node => refuse "a string" span node

def flag : ValueReader Bool
  | _, .scalar _ (.boolean value) => .ok value
  | span, node => refuse "a boolean" span node

def natural (bound : Nat) (expected : String) : ValueReader Nat
  | span, .scalar _ (.integer value) =>
    if 0 ≤ value ∧ value < bound then .ok value.toNat
    else .error (.misfit span (.outOfRange value expected))
  | span, node => refuse expected span node

def port : ValueReader UInt16 := fun span node =>
  UInt16.ofNat <$> natural UInt16.size "u16" span node

def backlog : ValueReader UInt32 := fun span node =>
  UInt32.ofNat <$> natural UInt32.size "u32" span node

def size : ValueReader UInt64 := fun span node =>
  UInt64.ofNat <$> natural UInt64.size "usize" span node

def timeout : ValueReader (Option UInt64) := fun span node =>
  (fun value => some (UInt64.ofNat value)) <$> natural UInt64.size "u64" span node

def isHollow : Node → Bool
  | .array _ elements => elements.isEmpty
  | .table _ _ entries => entries.isEmpty
  | .rows tables => tables.isEmpty
  | .scalar _ _ => false

def endingsOf (span : Span) (name : String) : Except TomlError LineEndings :=
  match LineEndings.ofName? name with
  | some endings => .ok endings
  | none => .error (.misfit span (.unknownEndings name))

/-- The choice of line endings: its name, or a table with nothing but its name. -/
def endings : ValueReader LineEndings
  | span, .scalar _ (.text content) => endingsOf span content
  | span, .table _ _ [] => .error (.misfit span .emptyChoice)
  | _, .table _ _ [(key, value)] => do
    let endings ← endingsOf key.span key.name
    if isHollow value then .ok endings
    else .error (.misfit (value.span?.getD key.span) .filledChoice)
  | span, .table _ _ _ => .error (.misfit span .manyChoices)
  | span, _ => .error (.misfit span .neitherTextNorTable)

end ValueReader

/-- A field of a group of settings: its name, and how its value is set. -/
structure FieldReader (α : Type) where
  name : String
  set : α → ValueReader α

namespace FieldReader

variable {α : Type}

/-- A field of the given name and kind of value. -/
def of {β : Type} (name : String) (read : ValueReader β) (store : α → β → α) : FieldReader α :=
  ⟨name, fun settings span node => (store settings) <$> read span node⟩

/-- Sets the fields that a table names, in the order of the table. -/
def setNamed (fields : List (FieldReader α)) (settings : α) (entries : Entries) :
    Except TomlError α :=
  entries.foldlM
    (fun settings (key, node) =>
      match fields.find? (fun field => field.name == key.name) with
      | some field => field.set settings (node.span?.getD key.span) node
      | none => .ok settings)
    settings

/-- Sets the first fields to the elements of an array. -/
def setInOrder (span : Span) (fields : List (FieldReader α)) (settings : α)
    (elements : List Node) : Except TomlError α :=
  (fields.zip elements).foldlM
    (fun settings (field, node) => field.set settings (node.span?.getD span) node)
    settings

/-- Sets the fields of a group. A date or a time counts as a table of unknown names. -/
def setGroup (expected : String) (fields : List (FieldReader α)) (settings : α) :
    ValueReader α
  | _, .table _ _ entries => setNamed fields settings entries
  | span, .array _ elements => setInOrder span fields settings elements
  | span, .rows tables =>
    setInOrder span fields settings
      (tables.map (fun (span, entries) => .table (some span) .header entries))
  | _, .scalar _ .moment => .ok settings
  | span, node => ValueReader.refuse expected span node

end FieldReader

def ServiceConfig.fields : List (FieldReader ServiceConfig) :=
  [.of "host" .text (fun config host => { config with host }),
    .of "port" .port (fun config port => { config with port }),
    .of "backlog" .backlog (fun config backlog => { config with backlog }),
    .of "buffer_size" .size (fun config bufferSize => { config with bufferSize }),
    .of "read_timeout_ms" .timeout (fun config readTimeout => { config with readTimeout }),
    .of "write_timeout_ms" .timeout (fun config writeTimeout => { config with writeTimeout })]

/-- The settings of a service of which nothing is named, each with its own default. -/
def ServiceConfig.unnamed : ServiceConfig where
  host := Config.defaultHost
  port := Config.defaultPort
  backlog := Config.defaultBacklog
  bufferSize := Config.defaultBufferSize
  readTimeout := none
  writeTimeout := none

def ClientConfig.fields : List (FieldReader ClientConfig) :=
  [.of "host" .text (fun config host => { config with host }),
    .of "port" .port (fun config port => { config with port }),
    .of "connect_timeout_ms" .timeout (fun config connectTimeout => { config with connectTimeout }),
    .of "write_timeout_ms" .timeout (fun config writeTimeout => { config with writeTimeout }),
    .of "echo_timeout_ms" .timeout (fun config echoTimeout => { config with echoTimeout }),
    .of "line_endings" .endings (fun config lineEndings => { config with lineEndings }),
    .of "capture_echo" .flag (fun config captureEcho => { config with captureEcho }),
    .of "nodelay" .flag (fun config noDelay => { config with noDelay })]

/-- The settings of a client of which nothing is named, each with its own default. -/
def ClientConfig.unnamed : ClientConfig where
  host := Config.defaultHost
  port := Config.defaultPort
  connectTimeout := none
  writeTimeout := none
  echoTimeout := none
  lineEndings := default
  captureEcho := default
  noDelay := Config.defaultNoDelay

namespace Config

def fields : List (FieldReader Config) :=
  [.of "log_level" .text (fun config logLevel => { config with logLevel }),
    .of "service" (FieldReader.setGroup "struct ServiceConfig" ServiceConfig.fields .unnamed)
      (fun config service => { config with service }),
    .of "client" (FieldReader.setGroup "struct ClientConfig" ClientConfig.fields .unnamed)
      (fun config client => { config with client })]

/-- A configuration of which nothing is named. A group that is missing is not one of which nothing
is named: it is the default group. -/
def unnamed : Config where
  logLevel := defaultLogLevel
  service := default
  client := default

/-- The configuration of a document, which need not be valid. -/
def ofToml (text : List Char) : Except TomlError Config :=
  match Toml.parse text with
  | some entries => FieldReader.setNamed fields unnamed entries
  | none => .error .malformed

end Config

end LineEcho
