import LineEcho.Output.Render
import LineEcho.Proofs.Config.Settings
import LineEcho.Proofs.Json.Reading

/-!
# Renderings are decoded

What is shown for programs can be read by them.  Each report, count, configuration, message and
error is one object, and whoever reads the object gets back what was shown, up to the echo of a
report.  So nothing else of its kind is ever shown in the same way.

An object of results is read by its names, of which it must have all and no others, in whatever
order (`Value.record?`).  A configuration is read from an object in the way in which it is read from
a table (`Value.node?`): a name that is missing has its default, so a timeout that is missing is not
set.
-/

namespace LineEcho

open Json (Value)
open Toml (Node Entries)

/-! ### Results -/

namespace Json.Value

/-- The values of an object under some names, in the order of these names, if the object has just
these names, each of them once. -/
def record? (names : List String) : Value → Option (List Value)
  | .object fields =>
    if (fields.map Prod.fst).Perm names then names.mapM (fun name => fields.lookup name) else none
  | _ => none

theorem lookup_of_mem {fields : List (String × Value)} (distinct : (fields.map Prod.fst).Nodup)
    {name : String} {value : Value} (member : (name, value) ∈ fields) :
    fields.lookup name = some value := by
  induction fields with
  | nil => contradiction
  | cons field others ih =>
    obtain ⟨first, content⟩ := field
    obtain ⟨missing, distinct⟩ := List.nodup_cons.1 distinct
    rcases List.mem_cons.1 member with same | later
    · cases same
      exact List.lookup_cons_self
    · have differs : name ≠ first := fun same =>
        missing (same ▸ List.mem_map.2 ⟨_, later, rfl⟩)
      rw [List.lookup_cons, beq_false_of_ne differs]
      exact ih distinct later

/-- An object is read by its own names as its values. -/
theorem record?_of_names (names : List String) {fields : List (String × Value)}
    (named : fields.map Prod.fst = names) (distinct : names.Nodup) :
    (object fields).record? names = some (fields.map Prod.snd) := by
  subst named
  -- The induction is on a part of the object, while its names are looked up in the whole.
  have found (others : List (String × Value)) (within : others ⊆ fields) :
      (others.map Prod.fst).mapM (fun name => fields.lookup name) =
        some (others.map Prod.snd) := by
    induction others with
    | nil => rfl
    | cons field others ih =>
      obtain ⟨here, within⟩ := List.cons_subset.1 within
      rw [List.map_cons, List.mapM_cons, lookup_of_mem distinct here, ih within]
      rfl
  rw [record?, if_pos (List.Perm.refl _)]
  exact found fields (List.Subset.refl fields)

end Json.Value

namespace TransferReport

def withoutEcho (report : TransferReport) : TransferReport :=
  { report with echo := none }

/-- The report that some values are those of. -/
def ofValues? : List Value → Option TransferReport
  | [.text file, .text remote, .number lines, .number octetsSent, .number collisions,
      .number echoedOctets, .boolean endRecordEchoed, .number elapsedMicros] =>
    let counts := { lines, octetsSent, collisions }
    some { file, remote, counts, echoedOctets, endRecordEchoed, elapsedMicros, echo := none }
  | _ => none

def labels : List String :=
  ["file", "remote", "lines", "bytes_sent", "sentinel_collisions", "echoed_bytes",
    "sentinel_echoed", "elapsed_us"]

/-- The report of a document, which has nothing of the echo. -/
def ofJson? (document : Value) : Option TransferReport :=
  (document.record? labels).bind ofValues?

theorem ofJson?_toJson (report : TransferReport) :
    ofJson? report.toJson = some report.withoutEcho :=
  congrArg (·.bind ofValues?) (Json.Value.record?_of_names labels rfl (by decide))

end TransferReport

namespace LineCount

def ofValues? : List Value → Option LineCount
  | [.text file, .number lines, .number octets, .number elapsedMicros] =>
    some { file, lines, octets, elapsedMicros }
  | _ => none

def labels : List String :=
  ["file", "lines", "bytes", "elapsed_us"]

def ofJson? (document : Value) : Option LineCount :=
  (document.record? labels).bind ofValues?

theorem ofJson?_toJson (count : LineCount) : ofJson? count.toJson = some count :=
  congrArg (·.bind ofValues?) (Json.Value.record?_of_names labels rfl (by decide))

end LineCount

namespace Json

def soleText? : List Value → Option String
  | [.text content] => some content
  | _ => none

/-- The text under a label, of a document that has nothing else. -/
def labelled? (label : String) (document : Value) : Option String :=
  (document.record? [label]).bind soleText?

theorem labelled?_object (label text : String) :
    labelled? label (.object [(label, .text text)]) = some text :=
  congrArg (·.bind soleText?) (Value.record?_of_names [label] rfl (List.nodup_cons.2 (by simp)))

end Json

/-! ### Configurations -/

namespace Json

mutual

/-- A document as a value that settings are read from.  An object that has a name twice is none. -/
def Value.node? : Value → Option Node
  | .boolean value => some (.scalar default (.boolean value))
  | .number value => some (.scalar default (.integer value))
  | .text content => some (.scalar default (.text content))
  | .object fields =>
    if (fields.map Prod.fst).Nodup then (entries? fields).map (.table (some default) .braces)
    else none

def entries? : List (String × Value) → Option Entries
  | [] => some []
  | (name, value) :: fields => do
    let node ← value.node?
    let entries ← entries? fields
    some ((⟨name, default⟩, node) :: entries)

end

section

variable {fields more : List (String × Value)} {entries others : Entries}

theorem node?_object (distinct : (fields.map Prod.fst).Nodup)
    (read : entries? fields = some entries) :
    (Value.object fields).node? = some (.table (some default) .braces entries) := by
  rw [Value.node?, if_pos distinct, read]
  rfl

theorem entries?_cons {name : String} {value : Value} {node : Node}
    (readFirst : value.node? = some node) (read : entries? fields = some entries) :
    entries? ((name, value) :: fields) = some ((⟨name, default⟩, node) :: entries) := by
  rw [entries?, readFirst, read]
  rfl

theorem entries?_append (read : entries? fields = some entries)
    (readMore : entries? more = some others) :
    entries? (fields ++ more) = some (entries ++ others) := by
  induction fields generalizing entries with
  | nil =>
    cases read
    exact readMore
  | cons field fields ih =>
    obtain ⟨name, value⟩ := field
    obtain ⟨node, readFirst, read⟩ := Option.bind_eq_some_iff.1 read
    obtain ⟨rest, readRest, same⟩ := Option.bind_eq_some_iff.1 read
    cases same
    exact entries?_cons readFirst (ih readRest)

end

end Json

/-- The configuration of a document, which need not be valid. -/
def Config.ofJson? (document : Value) : Option Config :=
  match document.node? with
  | some (.table _ _ entries) => (FieldReader.setNamed fields unnamed entries).toOption
  | _ => none

namespace Toml.Entries

def ofSetting (name : String) (value : Toml.Scalar) : Entries :=
  [(⟨name, default⟩, .scalar default value)]

/-- A timeout that is not set is missing. -/
def ofTimeout (name : String) (timeout : Option UInt64) : Entries :=
  (timeout.map (fun millis => ofSetting name (.integer millis.toNat))).getD []

end Toml.Entries

theorem Json.entries?_timeoutField (name : String) (timeout : Option UInt64) :
    entries? (Config.timeoutField name timeout) = some (Entries.ofTimeout name timeout) := by
  cases timeout <;> rfl

theorem Config.names_timeoutField (name : String) (timeout : Option UInt64) :
    ((timeoutField name timeout).map Prod.fst).Sublist [name] := by
  cases timeout with
  | none => exact List.nil_sublist _
  | some millis => exact List.Sublist.refl _

namespace FieldReader

variable {α β : Type} {fields : List (FieldReader α)} {name : String}

/-- Some entries change settings in a way, whatever the settings were. -/
def Sets (fields : List (FieldReader α)) (entries : Entries) (change : α → α) : Prop :=
  ∀ settings, setNamed fields settings entries = .ok (change settings)

theorem Sets.append {first second : Entries} {change next : α → α}
    (sets : Sets fields first change) (setsNext : Sets fields second next) :
    Sets fields (first ++ second) (next ∘ change) := by
  intro settings
  rw [setNamed_append, sets settings]
  exact setsNext (change settings)

theorem sets_setting (read : ValueReader β) {store : α → β → α}
    (known : fields.find? (fun field => field.name == name) = some (.of name read store))
    {content : Toml.Scalar} {value : β}
    (means : ∀ span place, read span (.scalar place content) = .ok value) :
    Sets fields (Entries.ofSetting name content) (fun settings => store settings value) := by
  intro settings
  refine setNamed_cons known ?_ []
  show store settings <$> read _ _ = _
  rw [means]
  rfl

theorem sets_timeout {store : α → Option UInt64 → α}
    (known : fields.find? (fun field => field.name == name) = some (.of name .timeout store))
    (timeout : Option UInt64) :
    Sets fields (Entries.ofTimeout name timeout)
      (fun settings => timeout.elim settings (fun millis => store settings (some millis))) := by
  cases timeout with
  | none => exact fun settings => rfl
  | some millis =>
    exact sets_setting .timeout known
      (fun span place => ValueReader.timeout_toNat span place millis)

end FieldReader

open FieldReader (Sets sets_setting sets_timeout)

namespace ServiceConfig

/-- The settings of a service as they are read. -/
def entries (config : ServiceConfig) : Entries :=
  Entries.ofSetting "host" (.text config.host) ++
    Entries.ofSetting "port" (.integer config.port.toNat) ++
    Entries.ofSetting "backlog" (.integer config.backlog.toNat) ++
    Entries.ofSetting "buffer_size" (.integer config.bufferSize.toNat) ++
    Entries.ofTimeout "read_timeout_ms" config.readTimeout ++
    Entries.ofTimeout "write_timeout_ms" config.writeTimeout

theorem setNamed_entries (config : ServiceConfig) :
    FieldReader.setNamed fields default config.entries = .ok config := by
  obtain ⟨host, port, backlog, bufferSize, readTimeout, writeTimeout⟩ := config
  have setsHost : Sets fields (.ofSetting "host" (.text host)) _ :=
    sets_setting .text rfl (fun _ _ => rfl)
  have setsPort : Sets fields (.ofSetting "port" (.integer port.toNat)) _ :=
    sets_setting .port rfl (fun span place => ValueReader.port_toNat span place port)
  have setsBacklog : Sets fields (.ofSetting "backlog" (.integer backlog.toNat)) _ :=
    sets_setting .backlog rfl (fun span place => ValueReader.backlog_toNat span place backlog)
  have setsSize : Sets fields (.ofSetting "buffer_size" (.integer bufferSize.toNat)) _ :=
    sets_setting .size rfl (fun span place => ValueReader.size_toNat span place bufferSize)
  have setsRead : Sets fields (.ofTimeout "read_timeout_ms" readTimeout) _ :=
    sets_timeout rfl readTimeout
  have setsWrite : Sets fields (.ofTimeout "write_timeout_ms" writeTimeout) _ :=
    sets_timeout rfl writeTimeout
  have sets := ((((setsHost.append setsPort).append setsBacklog).append setsSize).append
    setsRead).append setsWrite
  -- A timeout that is missing leaves what was there, and that was none.
  refine (sets default).trans (congrArg Except.ok ?_)
  cases readTimeout <;> cases writeTimeout <;> rfl

end ServiceConfig

namespace ClientConfig

def entries (config : ClientConfig) : Entries :=
  Entries.ofSetting "host" (.text config.host) ++
    Entries.ofSetting "port" (.integer config.port.toNat) ++
    Entries.ofTimeout "connect_timeout_ms" config.connectTimeout ++
    Entries.ofTimeout "write_timeout_ms" config.writeTimeout ++
    Entries.ofTimeout "echo_timeout_ms" config.echoTimeout ++
    (Entries.ofSetting "line_endings" (.text config.lineEndings.name) ++
      Entries.ofSetting "capture_echo" (.boolean config.captureEcho) ++
      Entries.ofSetting "nodelay" (.boolean config.noDelay))

theorem setNamed_entries (config : ClientConfig) :
    FieldReader.setNamed fields default config.entries = .ok config := by
  obtain ⟨host, port, connectTimeout, writeTimeout, echoTimeout, lineEndings, captureEcho,
    noDelay⟩ := config
  have setsHost : Sets fields (.ofSetting "host" (.text host)) _ :=
    sets_setting .text rfl (fun _ _ => rfl)
  have setsPort : Sets fields (.ofSetting "port" (.integer port.toNat)) _ :=
    sets_setting .port rfl (fun span place => ValueReader.port_toNat span place port)
  have setsConnect : Sets fields (.ofTimeout "connect_timeout_ms" connectTimeout) _ :=
    sets_timeout rfl connectTimeout
  have setsWrite : Sets fields (.ofTimeout "write_timeout_ms" writeTimeout) _ :=
    sets_timeout rfl writeTimeout
  have setsEcho : Sets fields (.ofTimeout "echo_timeout_ms" echoTimeout) _ :=
    sets_timeout rfl echoTimeout
  have setsEndings : Sets fields (.ofSetting "line_endings" (.text lineEndings.name)) _ :=
    sets_setting .endings rfl (fun span place => ValueReader.endings_name span place lineEndings)
  have setsCapture : Sets fields (.ofSetting "capture_echo" (.boolean captureEcho)) _ :=
    sets_setting .flag rfl (fun _ _ => rfl)
  have setsNoDelay : Sets fields (.ofSetting "nodelay" (.boolean noDelay)) _ :=
    sets_setting .flag rfl (fun _ _ => rfl)
  have sets := ((((setsHost.append setsPort).append setsConnect).append setsWrite).append
    setsEcho).append ((setsEndings.append setsCapture).append setsNoDelay)
  refine (sets default).trans (congrArg Except.ok ?_)
  cases connectTimeout <;> cases writeTimeout <;> cases echoTimeout <;> rfl

end ClientConfig

namespace Config

open Json (node?_object entries?_cons entries?_append entries?_timeoutField)

/-- The settings of a configuration as they are read: each of its groups is a table. -/
def entries (config : Config) : Entries :=
  Entries.ofSetting "log_level" (.text config.logLevel) ++
    [(⟨"service", default⟩, .table (some default) .braces config.service.entries),
      (⟨"client", default⟩, .table (some default) .braces config.client.entries)]

theorem setNamed_entries (config : Config) :
    FieldReader.setNamed fields unnamed config.entries = .ok config := by
  have setsLevel : Sets fields (.ofSetting "log_level" (.text config.logLevel)) _ :=
    sets_setting .text rfl (fun _ _ => rfl)
  rw [entries, FieldReader.setNamed_append, setsLevel unnamed, Except.bind,
    setNamed_service config.service.setNamed_entries,
    setNamed_client config.client.setNamed_entries]
  rfl

theorem node?_toJson (config : Config) :
    config.toJson.node? = some (.table (some default) .braces config.entries) := by
  -- The names of a group are some of those of its fields, in the same order.
  have serviceDistinct : (ServiceConfig.fields.map FieldReader.name).Nodup := by decide
  have clientDistinct : (ClientConfig.fields.map FieldReader.name).Nodup := by decide
  refine node?_object ?distinct (entries?_cons rfl (entries?_cons
    (node?_object (serviceDistinct.sublist ?serviceNames) ?service) (entries?_cons
      (node?_object (clientDistinct.sublist ?clientNames) ?client) rfl)))
  case distinct =>
    show ["log_level", "service", "client"].Nodup
    decide
  case service =>
    exact entries?_append (entries?_append rfl (entries?_timeoutField _ _))
      (entries?_timeoutField _ _)
  case client =>
    exact entries?_append (entries?_append (entries?_append (entries?_append rfl
      (entries?_timeoutField _ _)) (entries?_timeoutField _ _)) (entries?_timeoutField _ _)) rfl
  case serviceNames =>
    rw [List.map_append, List.map_append]
    exact ((List.Sublist.refl ["host", "port", "backlog", "buffer_size"]).append
      (names_timeoutField _ _)).append (names_timeoutField _ _)
  case clientNames =>
    rw [List.map_append, List.map_append, List.map_append, List.map_append]
    exact ((((List.Sublist.refl ["host", "port"]).append (names_timeoutField _ _)).append
      (names_timeoutField _ _)).append (names_timeoutField _ _)).append
      (List.Sublist.refl ["line_endings", "capture_echo", "nodelay"])

theorem ofJson?_toJson (config : Config) : ofJson? config.toJson = some config := by
  rw [ofJson?, node?_toJson]
  exact congrArg Except.toOption config.setNamed_entries

end Config

/-! ### Renderings -/

/-- A text is one object, which is read as a value. -/
def Decodes {α : Type} (read : Value → Option α) (text : String) (value : α) : Prop :=
  ∃ fields, Value.parse? text = some (.object fields) ∧ read (.object fields) = some value

theorem decodes_pretty {α : Type} {read : Value → Option α} {fields : List (String × Value)}
    {value : α} (reads : read (.object fields) = some value) :
    Decodes read ((Value.object fields).pretty ++ "\n") value :=
  ⟨fields, Json.parse?_pretty _, reads⟩

/-- What is read of anything that is shown can be told from what is shown. -/
theorem eq_of_decodes {α β : Type} {shown : β → String} {read : Value → Option α}
    {part : β → α} (decodes : ∀ value, Decodes read (shown value) (part value)) {first second : β}
    (same : shown first = shown second) : part first = part second := by
  obtain ⟨fields, parsed, readFirst⟩ := decodes first
  obtain ⟨_, parsedAgain, readSecond⟩ := decodes second
  rw [same] at parsed
  cases parsed.symm.trans parsedAgain
  exact Option.some.inj (readFirst.symm.trans readSecond)

theorem TransferReport.decodes_render (report : TransferReport) :
    Decodes ofJson? (report.render .json ++ "\n") report.withoutEcho :=
  decodes_pretty report.ofJson?_toJson

theorem TransferReport.render_json_eq_iff (first second : TransferReport) :
    first.render .json = second.render .json ↔ first.withoutEcho = second.withoutEcho := by
  constructor
  · intro same
    exact eq_of_decodes decodes_render (congrArg (· ++ "\n") same)
  · intro same
    show first.withoutEcho.render .json = second.withoutEcho.render .json
    rw [same]

theorem LineCount.decodes_render (count : LineCount) :
    Decodes ofJson? (count.render .json ++ "\n") count :=
  decodes_pretty count.ofJson?_toJson

theorem LineCount.render_json_injective : Function.Injective (render .json) := by
  intro first second same
  exact eq_of_decodes decodes_render (congrArg (· ++ "\n") same)

theorem Config.decodes_toJson (config : Config) :
    Decodes ofJson? (config.toJson.pretty ++ "\n") config :=
  decodes_pretty config.ofJson?_toJson

theorem Config.render_json_injective : Function.Injective (render .json) := by
  intro first second same
  exact eq_of_decodes decodes_toJson (Except.ok.inj same)

namespace OutputFormat

theorem decodes_labelled (label text : String) :
    Decodes (Json.labelled? label) (labelled label text ++ "\n") text :=
  decodes_pretty (Json.labelled?_object label text)

theorem message_json_injective : Function.Injective (message .json) := by
  intro first second same
  exact eq_of_decodes (decodes_labelled "message") (congrArg Printed.out same)

theorem error_json_injective : Function.Injective (error .json) := by
  intro first second same
  exact eq_of_decodes (decodes_labelled "error") (congrArg Printed.err same)

end OutputFormat

/-- Whatever is shown for programs is one object, and what it is read as is what was shown: a report
without its echo, a count, a configuration, and the text of a message or of an error.  So no two of
the same kind look alike, unless they are reports of different echoes only. -/
theorem renderings_decode :
    (∀ report : TransferReport,
      Decodes TransferReport.ofJson? (report.render .json ++ "\n") report.withoutEcho) ∧
    (∀ count : LineCount, Decodes LineCount.ofJson? (count.render .json ++ "\n") count) ∧
    (∀ config : Config, ∃ text,
      config.render .json = .ok text ∧ Decodes Config.ofJson? text config) ∧
    (∀ text, (OutputFormat.json.message text).err = "" ∧
      Decodes (Json.labelled? "message") (OutputFormat.json.message text).out text) ∧
    (∀ text, (OutputFormat.json.error text).out = "" ∧
      Decodes (Json.labelled? "error") (OutputFormat.json.error text).err text) ∧
    (∀ first second : TransferReport,
      first.render .json = second.render .json ↔ first.withoutEcho = second.withoutEcho) ∧
    Function.Injective (LineCount.render .json) ∧
    Function.Injective (Config.render .json) ∧
    Function.Injective (OutputFormat.message .json) ∧
    Function.Injective (OutputFormat.error .json) := by
  refine ⟨TransferReport.decodes_render, LineCount.decodes_render, ?_, ?_, ?_,
    TransferReport.render_json_eq_iff, LineCount.render_json_injective,
    Config.render_json_injective, OutputFormat.message_json_injective,
    OutputFormat.error_json_injective⟩
  · intro config
    exact ⟨_, rfl, config.decodes_toJson⟩
  · intro text
    exact ⟨rfl, OutputFormat.decodes_labelled "message" text⟩
  · intro text
    exact ⟨rfl, OutputFormat.decodes_labelled "error" text⟩

end LineEcho
