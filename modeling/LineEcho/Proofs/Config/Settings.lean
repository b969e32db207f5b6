import LineEcho.Config.OfToml
import LineEcho.Config.ToToml
import LineEcho.Proofs.Toml.Document

/-!
# Configurations as settings

A configuration comes out of the document that is written for it.  Each of its fields is a line of
the document, which sets this field to what it was; the limits that are not set have no line, and
stay unset by default.
-/

namespace LineEcho

open Toml (NamedScalar NamedTable Entries Span)

namespace FieldReader

variable {α : Type} {fields : List (FieldReader α)}

theorem setNamed_append (group : α) (first second : Entries) :
    setNamed fields group (first ++ second) =
      (setNamed fields group first).bind (fun group => setNamed fields group second) :=
  List.foldlM_append

theorem setNamed_cons {field : FieldReader α} {group next : α} {key : Toml.Key} {node : Toml.Node}
    (known : fields.find? (fun field => field.name == key.name) = some field)
    (set : field.set group (node.span?.getD key.span) node = .ok next) (rest : Entries) :
    setNamed fields group ((key, node) :: rest) = setNamed fields next rest := by
  rw [setNamed, List.foldlM_cons]
  simp only [known, set]
  rfl

end FieldReader

namespace ValueReader

variable (span place : Span)

theorem natural_natCast {number bound : Nat} (fits : number < bound) (expected : String) :
    natural bound expected span (.scalar place (.integer number)) = .ok number := by
  have within : (0 : Int) ≤ number ∧ (number : Int) < bound :=
    ⟨Int.natCast_nonneg number, Int.ofNat_lt.2 fits⟩
  rw [natural, if_pos within, Int.toNat_natCast]

theorem port_toNat (value : UInt16) :
    port span (.scalar place (.integer value.toNat)) = .ok value := by
  rw [port, natural_natCast span place value.toNat_lt]
  exact congrArg Except.ok UInt16.ofNat_toNat

theorem backlog_toNat (value : UInt32) :
    backlog span (.scalar place (.integer value.toNat)) = .ok value := by
  rw [backlog, natural_natCast span place value.toNat_lt]
  exact congrArg Except.ok UInt32.ofNat_toNat

theorem size_toNat (value : UInt64) :
    size span (.scalar place (.integer value.toNat)) = .ok value := by
  rw [size, natural_natCast span place value.toNat_lt]
  exact congrArg Except.ok UInt64.ofNat_toNat

theorem timeout_toNat (value : UInt64) :
    timeout span (.scalar place (.integer value.toNat)) = .ok (some value) := by
  rw [timeout, natural_natCast span place value.toNat_lt]
  exact congrArg (Except.ok ∘ some) UInt64.ofNat_toNat

theorem endings_name (value : LineEndings) :
    endings span (.scalar place (.text value.name)) = .ok value := by
  cases value <;> rfl

end ValueReader

/-- An integer of a document can hold the limit, if it is set. -/
def Holdable (timeout : Option UInt64) : Prop :=
  ∀ limit, timeout = some limit → limit.toNat ≤ Word.greatestSigned

instance (timeout : Option UInt64) : Decidable (Holdable timeout) :=
  match timeout with
  | none => .isTrue nofun
  | some limit =>
    decidable_of_iff (limit.toNat ≤ Word.greatestSigned)
      ⟨fun fits _ same => Option.some.inj same ▸ fits, fun fits => fits limit rfl⟩

theorem lt_signedBound {count : Nat} (fits : count ≤ Word.greatestSigned) :
    count < Word.signedBound :=
  Nat.lt_succ_of_le fits

/-- A line of a group of settings, which sets one of its fields. -/
structure Setting {α : Type} (fields : List (FieldReader α)) extends NamedScalar where
  store : α → α
  sets : ∃ field, fields.find? (fun field => field.name == name) = some field ∧
    ∀ settings span place, field.set settings span (.scalar place value) = .ok (store settings)

namespace Setting

variable {α β : Type} {fields : List (FieldReader α)}

/-- The line of a field, with what its value is read as. -/
def of (line : NamedScalar) (read : ValueReader β) (store : α → β → α) (value : β)
    (known : fields.find? (fun field => field.name == line.name) =
      some (.of line.name read store))
    (means : ∀ span place, read span (.scalar place line.value) = .ok value) : Setting fields where
  toNamedScalar := line
  store settings := store settings value
  sets := ⟨_, known, fun settings span place => by
    show (store settings <$> _) = _
    rw [means]
    rfl⟩

/-- Lines set one field after another. -/
theorem setNamed_of_holds {settings : List (Setting fields)} {entries : Entries}
    (holds : Toml.Holds (settings.map toNamedScalar) entries) (before : α) :
    FieldReader.setNamed fields before entries =
      .ok (settings.foldl (fun group setting => setting.store group) before) := by
  induction settings generalizing entries before with
  | nil =>
    cases holds
    rfl
  | cons setting others ih =>
    cases holds with
    | cons line keySpan span rest =>
      obtain ⟨field, known, sets⟩ := setting.sets
      rw [FieldReader.setNamed_cons known (sets before _ span) _, ih rest]
      rfl

/-- The line of a limit, if it is set. -/
def ofTimeout (name : String) (bare : Toml.IsBareName name) (store : α → Option UInt64 → α)
    (known : fields.find? (fun field => field.name == name) = some (.of name .timeout store))
    (timeout : Option UInt64) (fits : Holdable timeout) : List (Setting fields) :=
  match timeout, fits with
  | none, _ => []
  | some limit, fits =>
    [.of (.ofNat name bare limit.toNat (lt_signedBound (fits limit rfl))) .timeout store
      (some limit) known (fun span place => ValueReader.timeout_toNat span place limit)]

theorem names_ofTimeout {name : String} {bare : Toml.IsBareName name}
    {store : α → Option UInt64 → α}
    {known : fields.find? (fun field => field.name == name) = some (.of name .timeout store)}
    {timeout : Option UInt64} {fits : Holdable timeout} :
    ((ofTimeout name bare store known timeout fits).map (fun setting => setting.name)).Sublist
      [name] := by
  cases timeout with
  | none => exact List.nil_sublist _
  | some limit => exact List.Sublist.refl _

end Setting

/-- Every count of the service's settings can be written. -/
structure ServiceConfig.Fits (config : ServiceConfig) : Prop where
  bufferSize : config.bufferSize.toNat ≤ Word.greatestSigned
  readTimeout : Holdable config.readTimeout
  writeTimeout : Holdable config.writeTimeout

/-- Every count of the client's settings can be written. -/
structure ClientConfig.Fits (config : ClientConfig) : Prop where
  connectTimeout : Holdable config.connectTimeout
  writeTimeout : Holdable config.writeTimeout
  echoTimeout : Holdable config.echoTimeout

/-- Neither the buffer size nor any limit that is set is too great to be written. -/
structure Config.Fits (config : Config) : Prop where
  service : config.service.Fits
  client : config.client.Fits

instance (config : ServiceConfig) : Decidable config.Fits :=
  decidable_of_iff
    (config.bufferSize.toNat ≤ Word.greatestSigned ∧ Holdable config.readTimeout ∧
      Holdable config.writeTimeout)
    ⟨fun fits => ⟨fits.1, fits.2.1, fits.2.2⟩, fun fits => ⟨fits.1, fits.2, fits.3⟩⟩

instance (config : ClientConfig) : Decidable config.Fits :=
  decidable_of_iff
    (Holdable config.connectTimeout ∧ Holdable config.writeTimeout ∧ Holdable config.echoTimeout)
    ⟨fun fits => ⟨fits.1, fits.2.1, fits.2.2⟩, fun fits => ⟨fits.1, fits.2, fits.3⟩⟩

instance (config : Config) : Decidable config.Fits :=
  decidable_of_iff (config.service.Fits ∧ config.client.Fits)
    ⟨fun fits => ⟨fits.1, fits.2⟩, fun fits => ⟨fits.1, fits.2⟩⟩

namespace ServiceConfig

/-- The lines of the settings of the service. -/
def settings (config : ServiceConfig) (fits : config.Fits) : List (Setting fields) :=
  [.of (.ofText "host" (by decide) config.host) .text (fun config host => { config with host })
      config.host rfl (fun _ _ => rfl),
    .of (.ofNat "port" (by decide) config.port.toNat
        (Nat.lt_trans config.port.toNat_lt (by decide))) .port
      (fun config port => { config with port }) config.port rfl
      (fun span place => ValueReader.port_toNat span place config.port),
    .of (.ofNat "backlog" (by decide) config.backlog.toNat
        (Nat.lt_trans config.backlog.toNat_lt (by decide))) .backlog
      (fun config backlog => { config with backlog }) config.backlog rfl
      (fun span place => ValueReader.backlog_toNat span place config.backlog),
    .of (.ofNat "buffer_size" (by decide) config.bufferSize.toNat
        (lt_signedBound fits.bufferSize)) .size
      (fun config bufferSize => { config with bufferSize }) config.bufferSize rfl
      (fun span place => ValueReader.size_toNat span place config.bufferSize)] ++
    Setting.ofTimeout "read_timeout_ms" (by decide)
      (fun config readTimeout => { config with readTimeout }) rfl config.readTimeout
      fits.readTimeout ++
    Setting.ofTimeout "write_timeout_ms" (by decide)
      (fun config writeTimeout => { config with writeTimeout }) rfl config.writeTimeout
      fits.writeTimeout

theorem foldl_settings (config : ServiceConfig) (fits : config.Fits) :
    (config.settings fits).foldl (fun group setting => setting.store group) default = config := by
  obtain ⟨host, port, backlog, bufferSize, readTimeout, writeTimeout⟩ := config
  cases readTimeout <;> cases writeTimeout <;> rfl

theorem nodup_settings (config : ServiceConfig) (fits : config.Fits) :
    ((config.settings fits).map (fun setting => setting.name)).Nodup := by
  have distinct : (fields.map FieldReader.name).Nodup := by decide
  refine List.Sublist.nodup ?_ distinct
  rw [settings, List.map_append, List.map_append]
  exact ((List.Sublist.refl ["host", "port", "backlog", "buffer_size"]).append
    Setting.names_ofTimeout).append Setting.names_ofTimeout

end ServiceConfig

namespace ClientConfig

/-- The lines of the settings of the client. -/
def settings (config : ClientConfig) (fits : config.Fits) : List (Setting fields) :=
  [.of (.ofText "host" (by decide) config.host) .text (fun config host => { config with host })
      config.host rfl (fun _ _ => rfl),
    .of (.ofNat "port" (by decide) config.port.toNat
        (Nat.lt_trans config.port.toNat_lt (by decide))) .port
      (fun config port => { config with port }) config.port rfl
      (fun span place => ValueReader.port_toNat span place config.port)] ++
    Setting.ofTimeout "connect_timeout_ms" (by decide)
      (fun config connectTimeout => { config with connectTimeout }) rfl config.connectTimeout
      fits.connectTimeout ++
    Setting.ofTimeout "write_timeout_ms" (by decide)
      (fun config writeTimeout => { config with writeTimeout }) rfl config.writeTimeout
      fits.writeTimeout ++
    Setting.ofTimeout "echo_timeout_ms" (by decide)
      (fun config echoTimeout => { config with echoTimeout }) rfl config.echoTimeout
      fits.echoTimeout ++
    [.of (.ofText "line_endings" (by decide) config.lineEndings.name) .endings
      (fun config lineEndings => { config with lineEndings }) config.lineEndings rfl
      (fun span place => ValueReader.endings_name span place config.lineEndings),
    .of (.ofBool "capture_echo" (by decide) config.captureEcho) .flag
      (fun config captureEcho => { config with captureEcho }) config.captureEcho rfl
      (fun _ _ => rfl),
    .of (.ofBool "nodelay" (by decide) config.noDelay) .flag
      (fun config noDelay => { config with noDelay }) config.noDelay rfl (fun _ _ => rfl)]

theorem foldl_settings (config : ClientConfig) (fits : config.Fits) :
    (config.settings fits).foldl (fun group setting => setting.store group) default = config := by
  obtain ⟨host, port, connectTimeout, writeTimeout, echoTimeout, lineEndings, captureEcho,
    noDelay⟩ := config
  cases connectTimeout <;> cases writeTimeout <;> cases echoTimeout <;> rfl

theorem nodup_settings (config : ClientConfig) (fits : config.Fits) :
    ((config.settings fits).map (fun setting => setting.name)).Nodup := by
  have distinct : (fields.map FieldReader.name).Nodup := by decide
  refine List.Sublist.nodup ?_ distinct
  rw [settings, List.map_append, List.map_append, List.map_append, List.map_append]
  exact ((((List.Sublist.refl ["host", "port"]).append Setting.names_ofTimeout).append
    Setting.names_ofTimeout).append Setting.names_ofTimeout).append
    (List.Sublist.refl ["line_endings", "capture_echo", "nodelay"])

end ClientConfig

namespace Config

/-- The line of the log level. -/
def topLine (config : Config) : Setting fields :=
  .of (.ofText "log_level" (by decide) config.logLevel) .text
    (fun config logLevel => { config with logLevel }) config.logLevel rfl (fun _ _ => rfl)

def serviceTable (config : Config) (fits : config.Fits) : NamedTable where
  name := "service"
  bare := by decide
  lines := (config.service.settings fits.service).map Setting.toNamedScalar

def clientTable (config : Config) (fits : config.Fits) : NamedTable where
  name := "client"
  bare := by decide
  lines := (config.client.settings fits.client).map Setting.toNamedScalar

/-- The text that is written for a configuration. -/
def document (config : Config) (fits : config.Fits) : List Char :=
  [config.topLine.toNamedScalar].flatMap NamedScalar.text ++
    [config.serviceTable fits, config.clientTable fits].flatMap NamedTable.text

theorem setNamed_service {values : Entries} {service : ServiceConfig}
    (set : FieldReader.setNamed ServiceConfig.fields default values = .ok service)
    (config : Config) (key span : Span) (origin : Toml.Origin) (rest : Entries) :
    FieldReader.setNamed fields config
        ((⟨"service", key⟩, .table (some span) origin values) :: rest) =
      FieldReader.setNamed fields { config with service } rest := by
  refine FieldReader.setNamed_cons rfl ?_ rest
  show _ <$> FieldReader.setNamed ServiceConfig.fields default values = _
  rw [set]
  rfl

theorem setNamed_client {values : Entries} {client : ClientConfig}
    (set : FieldReader.setNamed ClientConfig.fields default values = .ok client)
    (config : Config) (key span : Span) (origin : Toml.Origin) (rest : Entries) :
    FieldReader.setNamed fields config
        ((⟨"client", key⟩, .table (some span) origin values) :: rest) =
      FieldReader.setNamed fields { config with client } rest := by
  refine FieldReader.setNamed_cons rfl ?_ rest
  show _ <$> FieldReader.setNamed ClientConfig.fields default values = _
  rw [set]
  rfl

/-- Reading the text of a configuration gives the configuration back, whether it is valid or not. -/
theorem ofToml_document (config : Config) (fits : config.Fits) :
    ofToml (config.document fits) = .ok config := by
  have distinct : (["log_level"] ++ ["service", "client"]).Nodup := by decide
  have within : ∀ table ∈ [config.serviceTable fits, config.clientTable fits],
      (table.lines.map NamedScalar.name).Nodup := by
    simp only [List.forall_mem_cons, serviceTable, clientTable, List.map_map]
    exact ⟨config.service.nodup_settings fits.service, config.client.nodup_settings fits.client,
      nofun⟩
  obtain ⟨values, entries, holds, holdsTables, parsed⟩ :=
    @Toml.parse_lines_tables [config.topLine.toNamedScalar]
      [config.serviceTable fits, config.clientTable fits] distinct within
  have top : FieldReader.setNamed fields default values =
      .ok { (default : Config) with logLevel := config.logLevel } :=
    @Setting.setNamed_of_holds _ _ [config.topLine] _ holds default
  cases holdsTables with
  | cons _ serviceKey serviceSpan service rest =>
    cases rest with
    | cons _ clientKey clientSpan client none =>
      cases none
      have serviceSet := Setting.setNamed_of_holds service default
      have clientSet := Setting.setNamed_of_holds client default
      rw [ServiceConfig.foldl_settings] at serviceSet
      rw [ClientConfig.foldl_settings] at clientSet
      rw [ofToml, document, parsed]
      show FieldReader.setNamed fields default (values ++ _) = .ok config
      rw [FieldReader.setNamed_append, top]
      exact (setNamed_service serviceSet _ _ _ _ _).trans (setNamed_client clientSet _ _ _ _ _)

def timeoutText (name : String) : Option UInt64 → List Char
  | none => []
  | some limit => tomlLine name (Nat.toDigits 10 limit.toNat)

theorem tomlNumber_eq {number : Nat} (fits : number < Word.signedBound) (name : String) :
    tomlNumber name number = some (tomlLine name (Nat.toDigits 10 number)) :=
  if_pos fits

theorem tomlTimeout_eq {timeout : Option UInt64} (fits : Holdable timeout) (name : String) :
    tomlTimeout name timeout = some (timeoutText name timeout) := by
  cases timeout with
  | none => rfl
  | some limit => exact tomlNumber_eq (lt_signedBound (fits limit rfl)) name

theorem text_serviceSettings (config : ServiceConfig) (fits : config.Fits) :
    ((config.settings fits).map Setting.toNamedScalar).flatMap NamedScalar.text =
      [tomlLine "host" (Toml.writeQuoted config.host.toList),
        tomlLine "port" (Nat.toDigits 10 config.port.toNat),
        tomlLine "backlog" (Nat.toDigits 10 config.backlog.toNat),
        tomlLine "buffer_size" (Nat.toDigits 10 config.bufferSize.toNat),
        timeoutText "read_timeout_ms" config.readTimeout,
        timeoutText "write_timeout_ms" config.writeTimeout].flatten := by
  obtain ⟨host, port, backlog, bufferSize, readTimeout, writeTimeout⟩ := config
  cases readTimeout <;> cases writeTimeout <;> rfl

theorem text_clientSettings (config : ClientConfig) (fits : config.Fits) :
    ((config.settings fits).map Setting.toNamedScalar).flatMap NamedScalar.text =
      [tomlLine "host" (Toml.writeQuoted config.host.toList),
        tomlLine "port" (Nat.toDigits 10 config.port.toNat),
        timeoutText "connect_timeout_ms" config.connectTimeout,
        timeoutText "write_timeout_ms" config.writeTimeout,
        timeoutText "echo_timeout_ms" config.echoTimeout,
        tomlLine "line_endings" (Toml.writeQuoted config.lineEndings.name.toList),
        tomlLine "capture_echo"
          (if config.captureEcho then ['t', 'r', 'u', 'e'] else ['f', 'a', 'l', 's', 'e']),
        tomlLine "nodelay"
          (if config.noDelay then ['t', 'r', 'u', 'e'] else ['f', 'a', 'l', 's', 'e'])].flatten := by
  obtain ⟨host, port, connectTimeout, writeTimeout, echoTimeout, lineEndings, captureEcho,
    noDelay⟩ := config
  cases connectTimeout <;> cases writeTimeout <;> cases echoTimeout <;> rfl

theorem toToml?_of_fits (config : Config) (fits : config.Fits) :
    config.toToml? = some (String.ofList (config.document fits)) := by
  have port : config.service.port.toNat < Word.signedBound :=
    Nat.lt_trans config.service.port.toNat_lt (by decide)
  have backlog : config.service.backlog.toNat < Word.signedBound :=
    Nat.lt_trans config.service.backlog.toNat_lt (by decide)
  have clientPort : config.client.port.toNat < Word.signedBound :=
    Nat.lt_trans config.client.port.toNat_lt (by decide)
  simp only [toToml?, tomlPieces, tomlText, tomlHeader, tomlFlag, tomlNumber_eq port,
    tomlNumber_eq backlog, tomlNumber_eq clientPort,
    tomlNumber_eq (lt_signedBound fits.service.bufferSize),
    tomlTimeout_eq fits.service.readTimeout, tomlTimeout_eq fits.service.writeTimeout,
    tomlTimeout_eq fits.client.connectTimeout, tomlTimeout_eq fits.client.writeTimeout,
    tomlTimeout_eq fits.client.echoTimeout, List.mapM_cons, List.mapM_nil, id, pure,
    Option.bind_eq_bind, Option.bind_some, Option.map_some]
  have top : [config.topLine.toNamedScalar].flatMap NamedScalar.text =
      tomlLine "log_level" (Toml.writeQuoted config.logLevel.toList) := List.append_nil _
  simp only [document, top, serviceTable, clientTable, NamedTable.text, List.flatMap_cons,
    List.flatMap_nil, text_serviceSettings, text_clientSettings, List.flatten_cons,
    List.flatten_nil, List.append_assoc, List.append_nil]

end Config

end LineEcho
