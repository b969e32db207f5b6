import LineEcho.Proofs.Config.Loading
import LineEcho.Proofs.Config.Slots

/-!
# Configurations that leave things out

A document may name any of the settings, in any order and among other names.  What it names replaces
the default, if it is what the setting needs, and everything else keeps the default.
-/

namespace LineEcho

open Toml (Span Node Entries)

/-! ### What a document gives -/

/-- What is given under a name, if anything is. -/
abbrev Given := String → Option Meaning

namespace Given

variable {α : Type}

/-- The value that is given under a name, or else the default one. -/
def value (given : Given) (name : String) (read : Meaning → Option α) (otherwise : α) : α :=
  ((given name).bind read).getD otherwise

/-- If anything is given under a name, it is of the type and in the range of the name. -/
def Fits (given : Given) (name : String) (read : Meaning → Option α) : Prop :=
  ∀ meaning ∈ given name, (read meaning).isSome = true

instance (given : Given) (name : String) (read : Meaning → Option α) :
    Decidable (given.Fits name read) :=
  inferInstanceAs (Decidable (∀ meaning ∈ given name, (read meaning).isSome = true))

end Given

def Toml.Entries.given (entries : Entries) : Given :=
  fun name => (entries.get? name).map Node.meaning

/-- The values of the table of a name, if there is one. -/
def Toml.Entries.group (entries : Entries) (name : String) : Entries :=
  match entries.get? name with
  | some (.table _ _ inner) => inner
  | _ => []

/-- A name under which there is a table, if anything. -/
def Toml.Entries.HasGroup (entries : Entries) (name : String) : Prop :=
  ∀ node, entries.get? name = some node → ∃ span origin inner, node = .table span origin inner

/-- The fields take exactly the tables whose values are accepted, as the settings that these
fill. -/
def FieldReader.Fills {α : Type} (fields : List (FieldReader α)) (unnamed : α)
    (accepts : Given → Prop) (filled : Given → α) : Prop :=
  ∀ ⦃entries : Entries⦄, entries.Orderly → ∀ settings,
    setNamed fields unnamed entries = .ok settings ↔
      accepts entries.given ∧ settings = filled entries.given

namespace ServiceConfig

/-- What is given for a service is what its settings need. -/
structure Accepts (given : Given) : Prop where
  host : given.Fits "host" Meaning.text?
  port : given.Fits "port" Meaning.port?
  backlog : given.Fits "backlog" Meaning.backlog?
  bufferSize : given.Fits "buffer_size" Meaning.size?
  readTimeout : given.Fits "read_timeout_ms" Meaning.timeout?
  writeTimeout : given.Fits "write_timeout_ms" Meaning.timeout?

instance (given : Given) : Decidable (Accepts given) :=
  decidable_of_iff
    (given.Fits "host" Meaning.text? ∧ given.Fits "port" Meaning.port? ∧
      given.Fits "backlog" Meaning.backlog? ∧ given.Fits "buffer_size" Meaning.size? ∧
      given.Fits "read_timeout_ms" Meaning.timeout? ∧
      given.Fits "write_timeout_ms" Meaning.timeout?)
    ⟨fun ⟨host, port, backlog, bufferSize, readTimeout, writeTimeout⟩ =>
        ⟨host, port, backlog, bufferSize, readTimeout, writeTimeout⟩,
      fun ⟨host, port, backlog, bufferSize, readTimeout, writeTimeout⟩ =>
        ⟨host, port, backlog, bufferSize, readTimeout, writeTimeout⟩⟩

/-- The default with what is given for a service. -/
def filled (given : Given) : ServiceConfig :=
  let otherwise : ServiceConfig := default
  { host := given.value "host" Meaning.text? otherwise.host
    port := given.value "port" Meaning.port? otherwise.port
    backlog := given.value "backlog" Meaning.backlog? otherwise.backlog
    bufferSize := given.value "buffer_size" Meaning.size? otherwise.bufferSize
    readTimeout := given.value "read_timeout_ms" Meaning.timeout? otherwise.readTimeout
    writeTimeout := given.value "write_timeout_ms" Meaning.timeout? otherwise.writeTimeout }

end ServiceConfig

namespace ClientConfig

/-- What is given for a client is what its settings need. -/
structure Accepts (given : Given) : Prop where
  host : given.Fits "host" Meaning.text?
  port : given.Fits "port" Meaning.port?
  connectTimeout : given.Fits "connect_timeout_ms" Meaning.timeout?
  writeTimeout : given.Fits "write_timeout_ms" Meaning.timeout?
  echoTimeout : given.Fits "echo_timeout_ms" Meaning.timeout?
  lineEndings : given.Fits "line_endings" Meaning.endings?
  captureEcho : given.Fits "capture_echo" Meaning.flag?
  noDelay : given.Fits "nodelay" Meaning.flag?

instance (given : Given) : Decidable (Accepts given) :=
  decidable_of_iff
    (given.Fits "host" Meaning.text? ∧ given.Fits "port" Meaning.port? ∧
      given.Fits "connect_timeout_ms" Meaning.timeout? ∧
      given.Fits "write_timeout_ms" Meaning.timeout? ∧
      given.Fits "echo_timeout_ms" Meaning.timeout? ∧
      given.Fits "line_endings" Meaning.endings? ∧ given.Fits "capture_echo" Meaning.flag? ∧
      given.Fits "nodelay" Meaning.flag?)
    ⟨fun ⟨host, port, connectTimeout, writeTimeout, echoTimeout, lineEndings, captureEcho,
        noDelay⟩ =>
        ⟨host, port, connectTimeout, writeTimeout, echoTimeout, lineEndings, captureEcho, noDelay⟩,
      fun ⟨host, port, connectTimeout, writeTimeout, echoTimeout, lineEndings, captureEcho,
        noDelay⟩ =>
        ⟨host, port, connectTimeout, writeTimeout, echoTimeout, lineEndings, captureEcho,
          noDelay⟩⟩

/-- The default with what is given for a client. -/
def filled (given : Given) : ClientConfig :=
  let otherwise : ClientConfig := default
  { host := given.value "host" Meaning.text? otherwise.host
    port := given.value "port" Meaning.port? otherwise.port
    connectTimeout := given.value "connect_timeout_ms" Meaning.timeout? otherwise.connectTimeout
    writeTimeout := given.value "write_timeout_ms" Meaning.timeout? otherwise.writeTimeout
    echoTimeout := given.value "echo_timeout_ms" Meaning.timeout? otherwise.echoTimeout
    lineEndings := given.value "line_endings" Meaning.endings? otherwise.lineEndings
    captureEcho := given.value "capture_echo" Meaning.flag? otherwise.captureEcho
    noDelay := given.value "nodelay" Meaning.flag? otherwise.noDelay }

end ClientConfig

namespace Config

/-- Everything that a document names is what the setting of that name needs. -/
structure Accepts (entries : Entries) : Prop where
  logLevel : entries.given.Fits "log_level" Meaning.text?
  service : ServiceConfig.Accepts (entries.group "service").given
  client : ClientConfig.Accepts (entries.group "client").given

instance (entries : Entries) : Decidable (Accepts entries) :=
  decidable_of_iff
    (entries.given.Fits "log_level" Meaning.text? ∧
      ServiceConfig.Accepts (entries.group "service").given ∧
      ClientConfig.Accepts (entries.group "client").given)
    ⟨fun ⟨logLevel, service, client⟩ => ⟨logLevel, service, client⟩,
      fun ⟨logLevel, service, client⟩ => ⟨logLevel, service, client⟩⟩

/-- The default with what a document names. -/
def filled (entries : Entries) : Config where
  logLevel := entries.given.value "log_level" Meaning.text? (default : Config).logLevel
  service := .filled (entries.group "service").given
  client := .filled (entries.group "client").given

end Config

namespace Slot

variable {α β : Type} {entries : Entries}

/-- The field of a setting. -/
def setting (name : String) (reader : ValueReader β) (read : Meaning → Option β) (get : α → β)
    (store : α → β → α) (store_get : ∀ settings, store settings (get settings) = settings) :
    Slot α :=
  ⟨β, name, reader, fun node => read node.meaning, get, store, store_get⟩

section Setting

variable {name : String} {reader : ValueReader β} {read : Meaning → Option β} {get : α → β}
  {store : α → β → α} {store_get : ∀ settings, store settings (get settings) = settings}

theorem put_setting (settings : α) :
    put entries settings (setting name reader read get store store_get) =
      store settings (entries.given.value name read (get settings)) := by
  simp only [put, named?, setting, Given.value, Entries.given, Option.bind_map]
  rfl

theorem fits_setting :
    (setting name reader read get store store_get).Fits entries ↔ entries.given.Fits name read := by
  simp only [Fits, setting, Given.Fits, Entries.given, Option.mem_def, Option.map_eq_some_iff]
  constructor
  · rintro fits _ ⟨node, found, rfl⟩
    exact fits node found
  · exact fun fits node found => fits _ ⟨node, found, rfl⟩

end Setting

end Slot

namespace ServiceConfig

/-- A service that is missing is configured like one of which nothing is named. -/
theorem default_eq_unnamed : (default : ServiceConfig) = unnamed :=
  rfl

def slots : List (Slot ServiceConfig) :=
  [.setting "host" .text Meaning.text? host (fun config host => { config with host })
      (fun _ => rfl),
    .setting "port" .port Meaning.port? port (fun config port => { config with port })
      (fun _ => rfl),
    .setting "backlog" .backlog Meaning.backlog? backlog
      (fun config backlog => { config with backlog }) (fun _ => rfl),
    .setting "buffer_size" .size Meaning.size? bufferSize
      (fun config bufferSize => { config with bufferSize }) (fun _ => rfl),
    .setting "read_timeout_ms" .timeout Meaning.timeout? readTimeout
      (fun config readTimeout => { config with readTimeout }) (fun _ => rfl),
    .setting "write_timeout_ms" .timeout Meaning.timeout? writeTimeout
      (fun config writeTimeout => { config with writeTimeout }) (fun _ => rfl)]

theorem fields_eq : fields = slots.map Slot.field :=
  rfl

theorem apart_slots : slots.Pairwise Slot.Apart := by
  simp only [slots, List.pairwise_cons, List.forall_mem_cons, List.not_mem_nil, false_implies,
    implies_true, and_true, List.Pairwise.nil]
  -- the fields two by two
  repeat' apply And.intro
  all_goals exact ⟨by decide, fun _ _ _ => rfl⟩

theorem follows_slots {node : Node} (orderly : node.Orderly) :
    ∀ slot ∈ slots, slot.reader.Follows slot.read node := by
  simp only [slots, List.forall_mem_cons]
  exact ⟨ValueReader.follows_text node, ValueReader.follows_port node,
    ValueReader.follows_backlog node, ValueReader.follows_size orderly,
    ValueReader.follows_timeout orderly, ValueReader.follows_timeout orderly, nofun⟩

theorem fills_fields : FieldReader.Fills fields .unnamed Accepts filled := by
  intro entries orderly settings
  rw [fields_eq, Slot.setNamed_eq_ok_iff apart_slots orderly.distinct
    (fun slot member entry present _ => follows_slots (orderly.each entry present) slot member)]
  refine and_congr ?_ ?_
  · simp only [slots, List.forall_mem_cons, Slot.fits_setting]
    constructor
    · rintro ⟨host, port, backlog, bufferSize, readTimeout, writeTimeout, -⟩
      exact ⟨host, port, backlog, bufferSize, readTimeout, writeTimeout⟩
    · rintro ⟨host, port, backlog, bufferSize, readTimeout, writeTimeout⟩
      exact ⟨host, port, backlog, bufferSize, readTimeout, writeTimeout, nofun⟩
  · simp only [slots, List.foldl_cons, List.foldl_nil, Slot.put_setting]
    rfl

end ServiceConfig

namespace ClientConfig

/-- A client that is missing is configured like one of which nothing is named. -/
theorem default_eq_unnamed : (default : ClientConfig) = unnamed :=
  rfl

def slots : List (Slot ClientConfig) :=
  [.setting "host" .text Meaning.text? host (fun config host => { config with host })
      (fun _ => rfl),
    .setting "port" .port Meaning.port? port (fun config port => { config with port })
      (fun _ => rfl),
    .setting "connect_timeout_ms" .timeout Meaning.timeout? connectTimeout
      (fun config connectTimeout => { config with connectTimeout }) (fun _ => rfl),
    .setting "write_timeout_ms" .timeout Meaning.timeout? writeTimeout
      (fun config writeTimeout => { config with writeTimeout }) (fun _ => rfl),
    .setting "echo_timeout_ms" .timeout Meaning.timeout? echoTimeout
      (fun config echoTimeout => { config with echoTimeout }) (fun _ => rfl),
    .setting "line_endings" .endings Meaning.endings? lineEndings
      (fun config lineEndings => { config with lineEndings }) (fun _ => rfl),
    .setting "capture_echo" .flag Meaning.flag? captureEcho
      (fun config captureEcho => { config with captureEcho }) (fun _ => rfl),
    .setting "nodelay" .flag Meaning.flag? noDelay
      (fun config noDelay => { config with noDelay }) (fun _ => rfl)]

theorem fields_eq : fields = slots.map Slot.field :=
  rfl

theorem apart_slots : slots.Pairwise Slot.Apart := by
  simp only [slots, List.pairwise_cons, List.forall_mem_cons, List.not_mem_nil, false_implies,
    implies_true, and_true, List.Pairwise.nil]
  repeat' apply And.intro
  all_goals exact ⟨by decide, fun _ _ _ => rfl⟩

theorem follows_slots {node : Node} (orderly : node.Orderly) :
    ∀ slot ∈ slots, slot.reader.Follows slot.read node := by
  simp only [slots, List.forall_mem_cons]
  exact ⟨ValueReader.follows_text node, ValueReader.follows_port node,
    ValueReader.follows_timeout orderly, ValueReader.follows_timeout orderly,
    ValueReader.follows_timeout orderly, ValueReader.follows_endings node,
    ValueReader.follows_flag node, ValueReader.follows_flag node, nofun⟩

theorem fills_fields : FieldReader.Fills fields .unnamed Accepts filled := by
  intro entries orderly settings
  rw [fields_eq, Slot.setNamed_eq_ok_iff apart_slots orderly.distinct
    (fun slot member entry present _ => follows_slots (orderly.each entry present) slot member)]
  refine and_congr ?_ ?_
  · simp only [slots, List.forall_mem_cons, Slot.fits_setting]
    constructor
    · rintro ⟨host, port, connectTimeout, writeTimeout, echoTimeout, lineEndings, captureEcho,
        noDelay, -⟩
      exact ⟨host, port, connectTimeout, writeTimeout, echoTimeout, lineEndings, captureEcho,
        noDelay⟩
    · rintro ⟨host, port, connectTimeout, writeTimeout, echoTimeout, lineEndings, captureEcho,
        noDelay⟩
      exact ⟨host, port, connectTimeout, writeTimeout, echoTimeout, lineEndings, captureEcho,
        noDelay, nofun⟩
  · simp only [slots, List.foldl_cons, List.foldl_nil, Slot.put_setting]
    rfl

end ClientConfig

/-! ### Whole documents -/

namespace Slot

variable {α β : Type} {entries : Entries}

/-- The field of a group of settings. -/
def group (name expected : String) (fields : List (FieldReader β)) (unnamed : β) (get : α → β)
    (store : α → β → α) (store_get : ∀ settings, store settings (get settings) = settings) :
    Slot α where
  Value := β
  name := name
  reader := FieldReader.setGroup expected fields unnamed
  read
    | .table _ _ inner => (FieldReader.setNamed fields unnamed inner).toOption
    | _ => none
  get := get
  store := store
  store_get := store_get

end Slot

theorem Toml.Entries.HasGroup.cases {entries : Entries} {name : String}
    (hasGroup : entries.HasGroup name) :
    (entries.get? name = none ∧ entries.group name = []) ∨
      ∃ span origin, entries.get? name = some (.table span origin (entries.group name)) := by
  unfold Entries.group
  cases found : entries.get? name with
  | none => exact .inl ⟨rfl, rfl⟩
  | some node =>
    obtain ⟨span, origin, inner, rfl⟩ := hasGroup node found
    exact .inr ⟨span, origin, rfl⟩

theorem Toml.Entries.Orderly.group {entries : Entries} (orderly : entries.Orderly)
    (name : String) : (entries.group name).Orderly := by
  unfold Entries.group
  split
  · rename_i found
    exact Node.orderly_table.1 (orderly.of_get? found)
  · exact .nil

namespace Slot

variable {α β : Type} {entries : Entries}

section Group

variable {name expected : String} {fields : List (FieldReader β)} {unnamed : β} {get : α → β}
  {store : α → β → α} {store_get : ∀ settings, store settings (get settings) = settings}

theorem follows_group (hasGroup : entries.HasGroup name) {entry : Toml.Key × Node}
    (distinct : entries.names.Nodup) (member : entry ∈ entries) (named : entry.1.name = name) :
    (group name expected fields unnamed get store store_get).reader.Follows
      (group name expected fields unnamed get store store_get).read entry.2 := by
  obtain ⟨span, origin, inner, isTable⟩ :=
    hasGroup entry.2 (Entries.get?_of_mem distinct member named)
  rw [isTable]
  exact fun _ => rfl

variable {accepts : Given → Prop} {filled : Given → β}

/-- Nothing is wrong with a group that is missing. -/
theorem fits_group (hasGroup : entries.HasGroup name) (orderly : entries.Orderly)
    (fills : FieldReader.Fills fields unnamed accepts filled) :
    (group name expected fields unnamed get store store_get).Fits entries ↔
      accepts (entries.group name).given := by
  obtain ⟨missing, empty⟩ | ⟨span, origin, found⟩ := hasGroup.cases
  · have vacuous : accepts (Entries.given []) := ((fills .nil unnamed).1 rfl).1
    rw [empty]
    refine iff_of_true (fun node found => ?_) vacuous
    rw [show entries.get? name = some node from found] at missing
    contradiction
  · have reads := fills (orderly.group name)
    constructor
    · intro fits
      have read : (FieldReader.setNamed fields unnamed (entries.group name)).toOption.isSome :=
        fits _ found
      cases result : FieldReader.setNamed fields unnamed (entries.group name) with
      | error error =>
        rw [result] at read
        contradiction
      | ok settings => exact ((reads settings).1 result).1
    · intro accepted node here
      obtain rfl := Option.some.inj (here.symm.trans found)
      show (FieldReader.setNamed fields unnamed (entries.group name)).toOption.isSome = true
      rw [(reads _).2 ⟨accepted, rfl⟩]
      rfl

/-- A group that is missing is one of which nothing is named. -/
theorem put_group (hasGroup : entries.HasGroup name) (orderly : entries.Orderly)
    (fills : FieldReader.Fills fields unnamed accepts filled)
    (accepted : accepts (entries.group name).given) {settings : α}
    (start : get settings = unnamed) :
    put entries settings (group name expected fields unnamed get store store_get) =
      store settings (filled (entries.group name).given) := by
  obtain ⟨missing, empty⟩ | ⟨span, origin, found⟩ := hasGroup.cases
  · have nothing : unnamed = filled (Entries.given []) := ((fills .nil unnamed).1 rfl).2
    have named :
        (group name expected fields unnamed get store store_get).named? entries = none := by
      show (entries.get? name).bind _ = none
      rw [missing]
      rfl
    rw [put_of_none named, empty, ← nothing, ← start]
    exact (store_get settings).symm
  · refine put_of_some ?_
    show (entries.get? name).bind _ = some (filled _)
    rw [found]
    show (FieldReader.setNamed fields unnamed (entries.group name)).toOption = some (filled _)
    rw [(fills (orderly.group name) _).2 ⟨accepted, rfl⟩]
    rfl

end Group

end Slot

namespace Config

/-- The names of the groups belong to tables, as far as they are there. -/
structure HasGroups (entries : Entries) : Prop where
  service : entries.HasGroup "service"
  client : entries.HasGroup "client"

def slots : List (Slot Config) :=
  [.setting "log_level" .text Meaning.text? logLevel
      (fun config logLevel => { config with logLevel }) (fun _ => rfl),
    .group "service" "struct ServiceConfig" ServiceConfig.fields .unnamed service
      (fun config service => { config with service }) (fun _ => rfl),
    .group "client" "struct ClientConfig" ClientConfig.fields .unnamed client
      (fun config client => { config with client }) (fun _ => rfl)]

theorem fields_eq : fields = slots.map Slot.field :=
  rfl

theorem apart_slots : slots.Pairwise Slot.Apart := by
  simp only [slots, List.pairwise_cons, List.forall_mem_cons, List.not_mem_nil, false_implies,
    implies_true, and_true, List.Pairwise.nil]
  repeat' apply And.intro
  all_goals exact ⟨by decide, fun _ _ _ => rfl⟩

theorem follows_slots {entries : Entries} (orderly : entries.Orderly)
    (hasGroups : HasGroups entries) :
    ∀ slot ∈ slots, ∀ entry ∈ entries, entry.1.name = slot.name →
      slot.reader.Follows slot.read entry.2 := by
  simp only [slots, List.forall_mem_cons]
  exact ⟨fun entry _ _ => ValueReader.follows_text entry.2,
    fun _ => Slot.follows_group hasGroups.service orderly.distinct,
    fun _ => Slot.follows_group hasGroups.client orderly.distinct, nofun⟩

theorem setNamed_eq_ok_iff {entries : Entries} (orderly : entries.Orderly)
    (hasGroups : HasGroups entries) (config : Config) :
    FieldReader.setNamed fields unnamed entries = .ok config ↔
      Accepts entries ∧ config = filled entries := by
  rw [fields_eq, Slot.setNamed_eq_ok_iff apart_slots orderly.distinct
    (follows_slots orderly hasGroups)]
  have accepts_iff : (∀ slot ∈ slots, slot.Fits entries) ↔ Accepts entries := by
    simp only [slots, List.forall_mem_cons, Slot.fits_setting,
      Slot.fits_group hasGroups.service orderly ServiceConfig.fills_fields,
      Slot.fits_group hasGroups.client orderly ClientConfig.fills_fields]
    constructor
    · rintro ⟨logLevel, service, client, -⟩
      exact ⟨logLevel, service, client⟩
    · rintro ⟨logLevel, service, client⟩
      exact ⟨logLevel, service, client, nofun⟩
  rw [accepts_iff]
  refine and_congr_right fun accepts => ?_
  simp only [slots, List.foldl_cons, List.foldl_nil, Slot.put_setting]
  rw [Slot.put_group hasGroups.service orderly ServiceConfig.fills_fields accepts.service,
    Slot.put_group hasGroups.client orderly ClientConfig.fills_fields accepts.client]
  · rfl
  · exact ClientConfig.default_eq_unnamed
  · exact ServiceConfig.default_eq_unnamed

theorem load_eq_ok_iff {fileSystem : FileSystem} {path text : String} {entries : Entries}
    (reads : fileSystem.readText path = .ok text) (parsed : Toml.parse text.toList = some entries)
    (hasGroups : HasGroups entries) (config : Config) :
    load fileSystem path = .ok config ↔
      (Accepts entries ∧ (filled entries).validate = .ok ()) ∧ config = filled entries := by
  have made := setNamed_eq_ok_iff (Toml.orderly_of_parse parsed) hasGroups
  have ofToml_eq : ofToml text.toList = FieldReader.setNamed fields unnamed entries := by
    rw [ofToml, parsed]
  rw [← ofToml_eq] at made
  rw [load_eq_iff]
  constructor
  · intro loads
    cases loads with
    | valid readsToo parses passes =>
      cases reads.symm.trans readsToo
      obtain ⟨accepts, rfl⟩ := (made config).1 parses
      exact ⟨⟨accepts, passes⟩, rfl⟩
  · rintro ⟨⟨accepts, passes⟩, rfl⟩
    exact .valid reads ((made _).2 ⟨accepts, rfl⟩) passes

end Config

/-! ### The order of the names -/

/-- The named values of a table as what they say, in the order of the table. -/
def Toml.Entries.sayings (entries : Entries) : List (String × Meaning) :=
  entries.map (fun (key, node) => (key.name, node.meaning))

theorem Toml.Entries.given_eq_some_iff {entries : Entries} (distinct : entries.names.Nodup)
    (name : String) (meaning : Meaning) :
    entries.given name = some meaning ↔ (name, meaning) ∈ entries.sayings := by
  constructor
  · intro given
    obtain ⟨node, found, rfl⟩ := Option.map_eq_some_iff.1 given
    obtain ⟨entry, member, rfl, rfl⟩ := exists_mem_of_get? found
    exact List.mem_map.2 ⟨entry, member, rfl⟩
  · intro said
    obtain ⟨entry, member, same⟩ := List.mem_map.1 said
    obtain ⟨named, means⟩ := Prod.mk.inj same
    rw [given, get?_of_mem distinct member named, Option.map_some, means]

/-- Nothing that is given depends on the order. -/
theorem Toml.Entries.given_eq_of_perm {entries others : Entries} (distinct : entries.names.Nodup)
    (othersDistinct : others.names.Nodup) (perm : entries.sayings.Perm others.sayings) :
    entries.given = others.given := by
  funext name
  refine Option.ext fun meaning => ?_
  rw [given_eq_some_iff distinct, given_eq_some_iff othersDistinct]
  exact perm.mem_iff

namespace Config

/-- Two documents whose tables name the same, in whatever order and at whatever places. -/
structure Rearranges (entries others : Entries) : Prop where
  top : entries.sayings.Perm others.sayings
  service : (entries.group "service").sayings.Perm (others.group "service").sayings
  client : (entries.group "client").sayings.Perm (others.group "client").sayings

theorem Rearranges.same {entries others : Entries} (orderly : entries.Orderly)
    (othersOrderly : others.Orderly) (rearranges : Rearranges entries others) :
    (Accepts entries ↔ Accepts others) ∧ filled entries = filled others := by
  have top := Entries.given_eq_of_perm orderly.distinct othersOrderly.distinct rearranges.top
  have service := Entries.given_eq_of_perm (orderly.group "service").distinct
    (othersOrderly.group "service").distinct rearranges.service
  have client := Entries.given_eq_of_perm (orderly.group "client").distinct
    (othersOrderly.group "client").distinct rearranges.client
  refine ⟨⟨?_, ?_⟩, ?_⟩
  · rintro ⟨fitsTop, fitsService, fitsClient⟩
    exact ⟨top ▸ fitsTop, service ▸ fitsService, client ▸ fitsClient⟩
  · rintro ⟨fitsTop, fitsService, fitsClient⟩
    exact ⟨top ▸ fitsTop, service ▸ fitsService, client ▸ fitsClient⟩
  · rw [filled, filled, top, service, client]

end Config

theorem ServiceConfig.filled_of_nothing {entries : Entries}
    (nothing : ∀ field ∈ fields, entries.get? field.name = none) :
    filled entries.given = default := by
  simp only [fields, List.forall_mem_cons, FieldReader.of] at nothing
  obtain ⟨host, port, backlog, bufferSize, readTimeout, writeTimeout, -⟩ := nothing
  simp only [filled, Given.value, Entries.given, host, port, backlog, bufferSize, readTimeout,
    writeTimeout]
  rfl

theorem ClientConfig.filled_of_nothing {entries : Entries}
    (nothing : ∀ field ∈ fields, entries.get? field.name = none) :
    filled entries.given = default := by
  simp only [fields, List.forall_mem_cons, FieldReader.of] at nothing
  obtain ⟨host, port, connectTimeout, writeTimeout, echoTimeout, lineEndings, captureEcho,
    noDelay, -⟩ := nothing
  simp only [filled, Given.value, Entries.given, host, port, connectTimeout, writeTimeout,
    echoTimeout, lineEndings, captureEcho, noDelay]
  rfl

namespace Config

/-- **Partial configurations.**  A document in which the service and the client are tables, if they
are there, loads just if every setting that it names is of its type and in its range and what comes
out is valid.  What comes out is the default with exactly these settings replaced, so a table that
is missing, is empty or has other names only leaves its group as it is by default.  The order of the
names and of the tables makes no difference.

A document is a text that the reader of documents takes, and the reader has limits of its own:
`Toml.deepest` bounds the brackets and braces that may be open at once and the parts of a name, a
decimal beyond the range of binary64 is refused unless it is negative, and a dotted name may not put
anything into a table that a longer header made. -/
theorem partial_loads {fileSystem : FileSystem} {path text : String} {entries : Entries}
    (reads : fileSystem.readText path = .ok text) (parsed : Toml.parse text.toList = some entries)
    (hasGroups : HasGroups entries) :
    ((∃ config, load fileSystem path = .ok config) ↔
      Accepts entries ∧ (filled entries).validate = .ok ()) ∧
    (∀ config, load fileSystem path = .ok config → config = filled entries ∧
      ((∀ field ∈ ServiceConfig.fields, (entries.group "service").get? field.name = none) →
        config.service = default) ∧
      ((∀ field ∈ ClientConfig.fields, (entries.group "client").get? field.name = none) →
        config.client = default)) ∧
    ∀ (otherSystem : FileSystem) (otherPath otherText : String) (others : Entries),
      otherSystem.readText otherPath = .ok otherText →
      Toml.parse otherText.toList = some others → HasGroups others → Rearranges entries others →
      ∀ config, load fileSystem path = .ok config ↔ load otherSystem otherPath = .ok config := by
  have loads := load_eq_ok_iff reads parsed hasGroups
  refine ⟨⟨?_, ?_⟩, ?_, ?_⟩
  · rintro ⟨config, loaded⟩
    exact ((loads config).1 loaded).1
  · exact fun accepted => ⟨filled entries, (loads _).2 ⟨accepted, rfl⟩⟩
  · intro config loaded
    obtain ⟨-, rfl⟩ := (loads config).1 loaded
    exact ⟨rfl, ServiceConfig.filled_of_nothing, ClientConfig.filled_of_nothing⟩
  · intro otherSystem otherPath otherText others otherReads otherParsed otherGroups rearranges
      config
    obtain ⟨accepts_iff, filled_eq⟩ :=
      rearranges.same (Toml.orderly_of_parse parsed) (Toml.orderly_of_parse otherParsed)
    rw [loads, load_eq_ok_iff otherReads otherParsed otherGroups, accepts_iff, filled_eq]

/-- A document that names a few settings, and something else. -/
def sparse : String :=
  "colour = \"red\"\nlog_level = \"debug\"\n\n[client]\nport = 7000\nnodelay = false\n"

def sparseEntries : Entries :=
  [(⟨"colour", ⟨73, 67⟩⟩, .scalar ⟨64, 59⟩ (.text "red")),
    (⟨"log_level", ⟨58, 49⟩⟩, .scalar ⟨46, 39⟩ (.text "debug")),
    (⟨"client", ⟨36, 30⟩⟩,
      .table (some ⟨37, 1⟩) .header
        [(⟨"port", ⟨28, 24⟩⟩, .scalar ⟨21, 17⟩ (.integer 7000)),
          (⟨"nodelay", ⟨16, 9⟩⟩, .scalar ⟨6, 1⟩ (.boolean false))])]

theorem parse_sparse : Toml.parse sparse.toList = some sparseEntries :=
  rfl

/-- The same in another order, with the client in braces. -/
def rearranged : String :=
  "client = \x7bnodelay = false, port = 7000\x7d\nlog_level = 'debug'\ncolour = 'red'"

def rearrangedEntries : Entries :=
  [(⟨"client", ⟨74, 68⟩⟩,
      .table (some ⟨65, 35⟩) .braces
        [(⟨"nodelay", ⟨64, 57⟩⟩, .scalar ⟨54, 49⟩ (.boolean false)),
          (⟨"port", ⟨47, 43⟩⟩, .scalar ⟨40, 36⟩ (.integer 7000))]),
    (⟨"log_level", ⟨34, 25⟩⟩, .scalar ⟨22, 15⟩ (.text "debug")),
    (⟨"colour", ⟨14, 8⟩⟩, .scalar ⟨5, 0⟩ (.text "red"))]

theorem parse_rearranged : Toml.parse rearranged.toList = some rearrangedEntries :=
  rfl

/-- What both documents come to. -/
def sparseConfig : Config :=
  { (default : Config) with
    logLevel := "debug"
    client := { (default : ClientConfig) with port := 7000, noDelay := false } }

theorem partial_loads_sparse :
    HasGroups sparseEntries ∧ HasGroups rearrangedEntries ∧
      Rearranges sparseEntries rearrangedEntries ∧
      ∃ written rewritten : FileSystem,
        written.readText "c.toml" = .ok sparse ∧ rewritten.readText "d.toml" = .ok rearranged ∧
        load written "c.toml" = .ok sparseConfig ∧ load rewritten "d.toml" = .ok sparseConfig := by
  have hasGroups : HasGroups sparseEntries :=
    ⟨nofun, fun node found => ⟨_, _, _, (Option.some.inj found).symm⟩⟩
  have otherGroups : HasGroups rearrangedEntries :=
    ⟨nofun, fun node found => ⟨_, _, _, (Option.some.inj found).symm⟩⟩
  have rearranges : Rearranges sparseEntries rearrangedEntries :=
    ⟨by decide, by decide, by decide⟩
  obtain ⟨written, -, reads⟩ :=
    (show (default : FileSystem).IsWritable "c.toml" from ⟨[], _, rfl⟩).readText sparse
  obtain ⟨rewritten, -, otherReads⟩ :=
    (show (default : FileSystem).IsWritable "d.toml" from ⟨[], _, rfl⟩).readText rearranged
  obtain ⟨loads, result, order⟩ := partial_loads reads parse_sparse hasGroups
  have accepts : Accepts sparseEntries := by decide
  obtain ⟨config, loaded⟩ := loads.2 ⟨accepts, rfl⟩
  obtain ⟨rfl, -⟩ := result config loaded
  have again := (order rewritten "d.toml" rearranged rearrangedEntries otherReads parse_rearranged
    otherGroups rearranges _).1 loaded
  exact ⟨hasGroups, otherGroups, rearranges, written, rewritten, reads, otherReads, loaded, again⟩

end Config

end LineEcho
