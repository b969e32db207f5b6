import Mathlib
import LineEcho.Proofs.Config.Bounds
import LineEcho.Proofs.Json.Reading

/-!
# How failures are reported

An execution that fails has printed nothing before, so that all there is on its two outputs is the
report of the failure.  Of all that is printed only a configuration could be refused halfway, and
none that has been loaded is.
-/

namespace LineEcho

open Json (Value)

namespace OutputFormat

/-- A text that names an error, once and in this format, and says nothing else. -/
def Reports (format : OutputFormat) (error : Error) (written : String) : Prop :=
  match format with
  | json => Value.parse? written = some (.object [("error", .text error.message)])
  | _ => written = "Error: " ++ error.message ++ "\n"

theorem out_error (format : OutputFormat) (text : String) : (format.error text).out = "" := by
  cases format <;> rfl

theorem reports_error (format : OutputFormat) (error : Error) :
    format.Reports error (format.error error.message).err := by
  cases format with
  | text => rfl
  | json => exact Json.parse?_pretty _
  | table => rfl

theorem err_message (format : OutputFormat) (text : String) : (format.message text).err = "" := by
  cases format <;> rfl

end OutputFormat

@[simp]
theorem Printed.out_append (first second : Printed) :
    (first ++ second).out = first.out ++ second.out :=
  rfl

@[simp]
theorem Printed.err_append (first second : Printed) :
    (first ++ second).err = first.err ++ second.err :=
  rfl

theorem TransferReport.err_print (format : OutputFormat) (report : TransferReport) :
    (report.print format).err = "" := by
  unfold print
  cases report.echo with
  | none => rfl
  | some echo => simp [format.err_message, Printed.onOut]

namespace Execution

/-- What has failed has printed nothing, and what has not failed nothing on the error output. -/
structure IsClean (execution : Execution) : Prop where
  of_ok : execution.result = .ok () → execution.printed.err = ""
  of_error : ∀ error, execution.result = .error error → execution.printed = .nothing

theorem isClean_failed (error : Error) (fileSystem : FileSystem) :
    (failed error fileSystem).IsClean :=
  ⟨nofun, fun _ _ => rfl⟩

theorem isClean_done {printed : Printed} (noErr : printed.err = "") (fileSystem : FileSystem) :
    (done printed fileSystem).IsClean :=
  ⟨fun _ => noErr, nofun⟩

theorem exists_of_ofPrinting {printing : Except Error Printed} {fileSystem : FileSystem}
    (succeeds : (ofPrinting fileSystem printing).result = .ok ()) :
    ∃ printed, printing = .ok printed ∧ (ofPrinting fileSystem printing).printed = printed := by
  cases printing with
  | ok printed => exact ⟨printed, rfl, rfl⟩
  | error error => contradiction

theorem isClean_ofPrinting {printing : Except Error Printed}
    (noErr : ∀ printed, printing = .ok printed → printed.err = "") (fileSystem : FileSystem) :
    (ofPrinting fileSystem printing).IsClean := by
  cases printing with
  | ok printed => exact isClean_done (noErr printed rfl) fileSystem
  | error error => exact isClean_failed error fileSystem

end Execution

namespace Job

theorem nothing_of_serveUntilInterrupted {config : ServiceConfig} {network : Network}
    {printed : Printed} (served : serveUntilInterrupted config network = .ok printed) :
    printed = .nothing := by
  obtain ⟨_, _, served⟩ := of_bind_eq_ok served
  obtain ⟨_, _, served⟩ := of_bind_eq_ok served
  exact (Except.ok.inj served).symm

theorem err_of_sendFile {format : OutputFormat} {config : ClientConfig} {file : String}
    {surroundings : Surroundings} {printed : Printed}
    (sent : sendFile format config file surroundings = .ok printed) : printed.err = "" := by
  obtain ⟨client, _, sent⟩ := of_bind_eq_ok sent
  obtain ⟨report, _, sent⟩ := of_bind_eq_ok sent
  cases sent
  exact TransferReport.err_print _ _

theorem err_of_map_onOut {α : Type} {made : Except Error α} {shownAs : α → String}
    {printed : Printed} (shown : made.map (fun value => .onOut (shownAs value)) = .ok printed) :
    printed.err = "" := by
  obtain ⟨value, _, rfl⟩ := of_map_eq_ok shown
  rfl

theorem isClean_perform (format : OutputFormat) (surroundings : Surroundings) (job : Job) :
    (job.perform format surroundings).IsClean := by
  cases job with
  | serve config =>
    refine Execution.isClean_ofPrinting (fun printed served => ?_) _
    rw [nothing_of_serveUntilInterrupted served]
    rfl
  | send config file => exact Execution.isClean_ofPrinting (fun _ => err_of_sendFile) _
  | count file => exact Execution.isClean_ofPrinting (fun _ => err_of_map_onOut) _
  | showConfig config => exact Execution.isClean_ofPrinting (fun _ => err_of_map_onOut) _
  | initConfig directory =>
    unfold perform
    dsimp only
    split
    · exact Execution.isClean_done (format.err_message _) _
    · exact Execution.isClean_failed _ _
  | showPaths =>
    refine Execution.isClean_done ?_ _
    simp [printPaths, format.err_message]
  | version => exact Execution.isClean_done (format.err_message _) _

end Job

namespace Invocation

theorem isClean_attempt (surroundings : Surroundings) (invocation : Invocation) :
    (invocation.attempt surroundings).IsClean := by
  unfold attempt
  split
  · exact Job.isClean_perform _ _ _
  · exact Execution.isClean_failed _ _

variable {surroundings : Surroundings} {invocation : Invocation}

/-- The report of a failure comes after the attempt and does not change what has become of it. -/
theorem result_execute :
    (invocation.execute surroundings).result = (invocation.attempt surroundings).result := by
  unfold execute
  dsimp only
  split <;> rfl

theorem printed_execute_of_ok (succeeds : (invocation.attempt surroundings).result = .ok ()) :
    (invocation.execute surroundings).printed = (invocation.attempt surroundings).printed := by
  rw [execute, succeeds]

theorem printed_execute_of_error {error : Error}
    (fails : (invocation.attempt surroundings).result = .error error) :
    (invocation.execute surroundings).printed =
      (invocation.attempt surroundings).printed ++ invocation.format.error error.message := by
  rw [execute, fails]

end Invocation

/-- **Reporting failures.**  Whatever the command line, the files and the network, an execution that
fails leaves nothing on the standard output, and on the error output one report of its error, which
for programs is one document.  One that succeeds leaves nothing on the error output.  Whatever
configuration any file or any layers load as can be shown in every format.  What is logged on the
way is not part of any of this. -/
theorem failures_reported_once (surroundings : Surroundings) (invocation : Invocation) :
    let fileSystem := surroundings.fileSystem
    let execution := invocation.execute surroundings
    (∀ error, execution.result = .error error →
      execution.printed.out = "" ∧ invocation.format.Reports error execution.printed.err) ∧
    (execution.result = .ok () → execution.printed.err = "") ∧
    (∀ path config, Config.load fileSystem path = .ok config →
      ∀ format, ∃ text, config.render format = .ok text) ∧
    ∀ layers config, ConfigLayers.load fileSystem layers = .ok config →
      ∀ format, ∃ text, config.render format = .ok text := by
  intro fileSystem execution
  have clean := invocation.isClean_attempt surroundings
  refine ⟨?_, ?_, fun path config loaded => Config.render_of_fits (Config.fits_of_load loaded),
    fun layers config loaded => Config.render_of_fits (ConfigLayers.fits_of_load loaded)⟩
  · intro error fails
    rw [Invocation.result_execute] at fails
    have printed_eq : execution.printed = .nothing ++ invocation.format.error error.message := by
      rw [← clean.of_error error fails]
      exact Invocation.printed_execute_of_error fails
    have out_eq : execution.printed.out = "" := by
      rw [printed_eq, Printed.out_append, invocation.format.out_error]
      rfl
    have err_eq : execution.printed.err = (invocation.format.error error.message).err := by
      rw [printed_eq]
      exact String.empty_append
    exact ⟨out_eq, err_eq ▸ invocation.format.reports_error error⟩
  · intro succeeds
    rw [Invocation.result_execute] at succeeds
    rw [show execution.printed = _ from Invocation.printed_execute_of_ok succeeds]
    exact clean.of_ok succeeds

/-- A command line for programs that starts from the configuration of a certain file. -/
def forProgram (command : Command) : Invocation where
  isVerbose := false
  isQuiet := true
  configFile := some "c.toml"
  format := .json
  command := command

def clientText : String :=
  "[client]\nport = 7200\nwrite_timeout_ms = 250\ncapture_echo = true\n"

/-- That file with a few settings of the client, and a file of one line beside it. -/
def configured : FileSystem :=
  ⟨⟨[(["c.toml"], .file (Bytes.ofText clientText)), (["line"], .file [0x61, 0x0A])]⟩, [], "/root"⟩

/-- What these settings come to. -/
def configuredClient : ClientConfig :=
  { (default : ClientConfig) with port := 7200, writeTimeout := some 250, captureEcho := true }

theorem load_configured :
    Config.load configured "c.toml" =
      .ok { (default : Config) with client := configuredClient } := by
  have reads : configured.readText "c.toml" = .ok clientText := FileSystem.readText_of_read rfl
  exact Config.load_eq_iff.2 (.valid reads rfl rfl)

theorem attempt_configured (network : Network) (command : Command) :
    (forProgram command).attempt ⟨configured, network, 0⟩ =
      (command.job { (default : Config) with client := configuredClient }).perform .json
        ⟨configured, network, 0⟩ := by
  have based : (forProgram command).config configured =
      .ok { (default : Config) with client := configuredClient } := load_configured
  exact Invocation.attempt_of_ok based

/-- A file that is missing and a peer that cannot be reached are reported, and what succeeds is not.
A configuration with integers is shown in every format. -/
theorem failures_reported_once_configured :
    let surroundings : Surroundings := ⟨configured, .isolated, 0⟩
    let missing := Error.invalidInput ("Cannot open nope: " ++ (Fault.ofSystem .noEntry).text)
    let unreachable := Error.connect configuredClient.address (.ofSystem .networkUnreachable)
    let counting := (forProgram (.count "nope")).execute surroundings
    let sending :=
      (forProgram (.send ⟨"line", none, none, none, false, false⟩)).execute surroundings
    let asking := (forProgram .version).execute surroundings
    let config := { (default : Config) with client := configuredClient }
    (counting.result = .error missing ∧ counting.printed.out = "" ∧
      Value.parse? counting.printed.err = some (.object [("error", .text missing.message)])) ∧
    (sending.result = .error unreachable ∧ sending.printed.out = "" ∧
      Value.parse? sending.printed.err = some (.object [("error", .text unreachable.message)])) ∧
    (asking.result = .ok () ∧ asking.printed.err = "") ∧
    (Config.load configured "c.toml" = .ok config ∧
      ConfigLayers.load configured ⟨none, some "c.toml"⟩ = .ok config) ∧
    ∀ format, ∃ text, config.render format = .ok text := by
  intro surroundings missing unreachable counting sending asking config
  have report (command : Command) := failures_reported_once surroundings (forProgram command)
  have result_eq (command : Command) : ((forProgram command).execute surroundings).result =
      ((command.job config).perform .json surroundings).result := by
    rw [Invocation.result_execute, attempt_configured]
  have uncounted : counting.result = .error missing := (result_eq _).trans rfl
  have unsent : sending.result = .error unreachable := by
    have refused : Client.connect .isolated configuredClient = .error unreachable := by cbv
    refine (result_eq _).trans ?_
    show (Execution.ofPrinting configured
      (Job.sendFile .json configuredClient "line" surroundings)).result = _
    rw [Job.sendFile, refused]
    rfl
  have answered : asking.result = .ok () := (result_eq _).trans rfl
  have layers : ConfigLayers.load configured ⟨none, some "c.toml"⟩ = .ok config := by
    rw [ConfigLayers.load_eq_resolve, ConfigLayers.layer?_of_exists rfl, load_configured]
    rfl
  obtain ⟨-, -, -, shown⟩ := report .version
  exact ⟨⟨uncounted, (report _).1 _ uncounted⟩, ⟨unsent, (report _).1 _ unsent⟩,
    ⟨answered, (report _).2.1 answered⟩, ⟨load_configured, layers⟩, shown _ _ layers⟩

end LineEcho
