import LineEcho.Proofs.Execution.Reporting
import LineEcho.Proofs.Transfer.Choices

/-!
# Documents on the standard output

For programs, each thing that a command has to say is a document on lines of its own.  Most commands
have one thing to say.  A transfer that keeps the echo shows it after its report, and each layer of
the configuration has a message of its own, so these two print two documents, and all of what they
print together is none.
-/

namespace LineEcho

open Json (Value)

namespace Json

/-- Documents one after another, each with a line break at its end. -/
def documents : List Value → String
  | [] => ""
  | value :: values => value.pretty ++ "\n" ++ documents values

theorem documents_append (first second : List Value) :
    documents (first ++ second) = documents first ++ documents second := by
  induction first with
  | nil => exact String.empty_append.symm
  | cons value values ih =>
    rw [List.cons_append, documents, documents, ih]
    exact String.append_assoc.symm

theorem skipSpace_documents_ne_nil (value : Value) (values : List Value) :
    skipSpace (documents (value :: values)).toList ≠ [] := by
  have text_eq : (documents (value :: values)).toList =
      value.write 0 ++ ('\n' :: (documents values).toList) := by
    simp [documents, Value.pretty]
  rw [text_eq, skipSpace_write]
  exact List.append_ne_nil_of_right_ne_nil _ (List.cons_ne_nil _ _)

/-- Several documents are not one. -/
theorem parse?_documents {values : List Value} {value : Value} :
    Value.parse? (documents values) = some value ↔ values = [value] := by
  cases values with
  | nil => exact ⟨nofun, nofun⟩
  | cons first others =>
    rw [documents, parse?_pretty_append]
    cases others with
    | nil => simp [documents, skipSpace]
    | cons second others =>
      have more := skipSpace_documents_ne_nil second others
      simp [more]

/-- A document with nothing but a message. -/
def message (text : String) : Value :=
  .object [("message", .text text)]

end Json

theorem OutputFormat.out_message (text : String) :
    (json.message text).out = Json.documents [Json.message text] :=
  String.append_empty.symm

namespace TransferReport

/-- A report, and the echo after it if it was kept. -/
def documents (report : TransferReport) : List Value :=
  report.toJson :: (report.echo.map (fun echo => Json.message (Bytes.textLossy echo))).toList

theorem length_documents (report : TransferReport) :
    report.documents.length = if report.echo.isSome then 2 else 1 := by
  unfold documents
  cases report.echo <;> rfl

theorem out_print (report : TransferReport) :
    (report.print .json).out = Json.documents report.documents := by
  unfold print documents
  cases report.echo with
  | none => exact String.append_empty.symm
  | some echo =>
    show (Printed.onOut _ ++ OutputFormat.message _ _).out = _
    rw [Printed.out_append, OutputFormat.out_message]
    rfl

end TransferReport

/-! ### The echo of a transfer -/

namespace Draining

theorem isSome_captured_advance (progress : Progress Draining) (asked : Request) :
    (machine.advance progress asked).state.receipt.captured.isSome =
      progress.state.receipt.captured.isSome := by
  let reply := progress.streams.await progress.state.deadline progress.now asked
  show (resume reply.now reply.answer progress.state).receipt.captured.isSome = _
  unfold resume
  split
  · rfl
  · exact Option.isSome_map
  · rfl
  · rfl

theorem isSome_captured_run (now : Instant) (limit : Option Duration) (receipt : Receipt)
    (streams : Streams) :
    (run now limit receipt streams).state.receipt.captured.isSome = receipt.captured.isSome :=
  machine.finish_invariant
    (fun later => later.state.receipt.captured.isSome = receipt.captured.isSome)
    (fun progress asked _ kept => (isSome_captured_advance progress asked).trans kept) _ rfl

end Draining

namespace Client

variable {config : ClientConfig} {network : Network} {client : Client} {choices : Nat → Side}
  {file : String} {opened : OpenedFile} {report : TransferReport}

theorem config_of_connect (connected : connect network config = .ok client) :
    client.config = config := by
  obtain ⟨_, _, connected⟩ := of_bind_eq_ok connected
  obtain ⟨dialing, _, connected⟩ := of_bind_eq_ok connected
  split at connected
  · cases connected
    rfl
  · contradiction

/-- A transfer keeps the echo if it was asked to. -/
theorem isSome_echo_of_transfer
    (transferred : (client.transfer choices file opened).result = .ok report) :
    report.echo.isSome = client.config.captureEcho := by
  obtain ⟨config, phase⟩ := client
  cases phase with
  | released _ => cases opened <;> contradiction
  | connected connection =>
    cases opened with
    | error fault => contradiction
    | ok content =>
      obtain ⟨counts, _, result⟩ | ⟨error, _, result⟩ :=
        send_cases config choices file content connection
      · have sent : .ok report = Except.ok (reportAlone config content connection file counts) :=
          transferred.symm.trans result
        cases sent
        show (drainedAlone config connection).state.receipt.captured.isSome = config.captureEcho
        rw [drainedAlone, Draining.isSome_captured_run]
        cases asked : config.captureEcho <;> rfl
      · cases transferred.symm.trans result

end Client

/-! ### What the commands say -/

namespace Job

/-- The documents that a job comes to. -/
inductive Tells (surroundings : Surroundings) : Job → List Value → Prop where
  | serve (config : ServiceConfig) : Tells surroundings (.serve config) []
  | send {config : ClientConfig} {file : String} {client : Client} {report : TransferReport}
      (connected : Client.connect surroundings.network config = .ok client)
      (transferred : (client.transferFile surroundings.fileSystem file).result = .ok report) :
      Tells surroundings (.send config file)
        { report with
          elapsedMicros :=
            Client.microsBetween 0 client.since + report.elapsedMicros : TransferReport }.documents
  | count {file : String} {count : LineCount}
      (counted :
        LineCount.ofFile surroundings.fileSystem file surroundings.fileMicros = .ok count) :
      Tells surroundings (.count file) [count.toJson]
  | showConfig (config : Config) : Tells surroundings (.showConfig config) [config.toJson]
  | initConfig {directory path : String} {made : FileSystem}
      (initialized : Config.initProject directory surroundings.fileSystem = (made, .ok path)) :
      Tells surroundings (.initConfig directory) [Json.message ("Created " ++ path)]
  | showPaths {layers : ConfigLayers}
      (discovered : ConfigLayers.discover surroundings.fileSystem = layers) :
      Tells surroundings .showPaths
        [Json.message ("global: " ++ describePath layers.global),
          Json.message ("project: " ++ describePath layers.project)]
  | version : Tells surroundings .version [Json.message CommandLine.programVersion]

/-- How many documents a job comes to. -/
def documentCount : Job → Nat
  | serve _ => 0
  | send config _ => if config.captureEcho then 2 else 1
  | showPaths => 2
  | count _ | showConfig _ | initConfig _ | version => 1

variable {surroundings : Surroundings}

theorem Tells.length_eq {job : Job} {values : List Value}
    (tells : job.Tells surroundings values) : values.length = job.documentCount := by
  cases tells with
  | send connected transferred =>
    have kept := Client.isSome_echo_of_transfer transferred
    rw [Client.config_of_connect connected] at kept
    rw [TransferReport.length_documents, documentCount, ← kept]
  | _ => rfl

theorem tells_of_sendFile {config : ClientConfig} {file : String} {printed : Printed}
    (sent : sendFile .json config file surroundings = .ok printed) :
    ∃ values, (Job.send config file).Tells surroundings values ∧
      printed.out = Json.documents values := by
  obtain ⟨client, connected, sent⟩ := of_bind_eq_ok sent
  obtain ⟨report, transferred, sent⟩ := of_bind_eq_ok sent
  cases sent
  exact ⟨_, .send connected transferred, TransferReport.out_print _⟩

/-- A job that succeeds prints its documents. -/
theorem tells_of_perform {job : Job}
    (succeeds : (job.perform .json surroundings).result = .ok ()) :
    ∃ values, job.Tells surroundings values ∧
      (job.perform .json surroundings).printed.out = Json.documents values := by
  cases job with
  | serve config =>
    obtain ⟨printed, served, printed_eq⟩ := Execution.exists_of_ofPrinting succeeds
    refine ⟨[], .serve config, (congrArg Printed.out printed_eq).trans ?_⟩
    rw [nothing_of_serveUntilInterrupted served]
    rfl
  | send config file =>
    obtain ⟨printed, sent, printed_eq⟩ := Execution.exists_of_ofPrinting succeeds
    obtain ⟨values, tells, out_eq⟩ := tells_of_sendFile sent
    exact ⟨values, tells, (congrArg Printed.out printed_eq).trans out_eq⟩
  | count file =>
    obtain ⟨printed, shown, printed_eq⟩ := Execution.exists_of_ofPrinting succeeds
    obtain ⟨count, counted, rfl⟩ := of_map_eq_ok shown
    exact ⟨_, .count counted, (congrArg Printed.out printed_eq).trans String.append_empty.symm⟩
  | showConfig config => exact ⟨_, .showConfig config, String.append_empty.symm⟩
  | initConfig directory =>
    cases initialized : Config.initProject directory surroundings.fileSystem with
    | mk made outcome =>
      cases outcome with
      | error error =>
        unfold perform at succeeds
        dsimp only at succeeds
        rw [initialized] at succeeds
        cases succeeds
      | ok path =>
        have tells : (Job.initConfig directory).Tells surroundings
            [Json.message ("Created " ++ path)] := .initConfig initialized
        refine ⟨_, tells, ?_⟩
        unfold perform
        dsimp only
        rw [initialized]
        exact OutputFormat.out_message _
  | showPaths =>
    refine ⟨_, .showPaths rfl, ?_⟩
    show (printPaths .json _).out = _
    rw [printPaths, Printed.out_append, OutputFormat.out_message, OutputFormat.out_message]
    exact (Json.documents_append [_] [_]).symm
  | version => exact ⟨_, .version, OutputFormat.out_message _⟩

end Job

/-- **Documents.**  A command line for programs that succeeds has started from some configuration,
and prints the documents of the job that it stands for, one after another: none for a server, two
for a transfer that keeps the echo and for the paths of the layers, and one for every other job.
What is printed is a document as a whole exactly if there is only one of them, and then it is that
one. -/
theorem documents_printed {surroundings : Surroundings} {invocation : Invocation}
    (isJson : invocation.format = .json)
    (succeeds : (invocation.execute surroundings).result = .ok ()) :
    let out := (invocation.execute surroundings).printed.out
    ∃ config values, invocation.config surroundings.fileSystem = .ok config ∧
      (invocation.command.job config).Tells surroundings values ∧
      values.length = (invocation.command.job config).documentCount ∧
      out = Json.documents values ∧
      ∀ value, Value.parse? out = some value ↔ values = [value] := by
  intro out
  have attempted := succeeds
  rw [Invocation.result_execute] at attempted
  cases based : invocation.config surroundings.fileSystem with
  | error error =>
    rw [Invocation.attempt_of_error based] at attempted
    contradiction
  | ok config =>
    have attempt_eq := Invocation.attempt_of_ok based
    rw [isJson] at attempt_eq
    rw [attempt_eq] at attempted
    obtain ⟨values, tells, printed⟩ := Job.tells_of_perform attempted
    have out_eq : out = Json.documents values := by
      rw [← printed, ← attempt_eq]
      exact congrArg Printed.out
        (Invocation.printed_execute_of_ok (Invocation.result_execute.symm.trans succeeds))
    exact ⟨config, values, rfl, tells, tells.length_eq, out_eq,
      fun value => out_eq ▸ Json.parse?_documents⟩

/-- A connection on which a line of one letter and the end record come back. -/
def returning (peer : SocketAddress) : Connection :=
  ⟨peer, 0,
    { (default : Streams) with
      incoming := .ofSteps [.answer (.data ([0x61, 0x0A] ++ Line.endRecord)), .answer .finished] }⟩

/-- A network on which everybody sends that back. -/
def responsive : Network where
  dial := fun peer => ⟨[.answer .done], peer, (returning peer).streams⟩
  names := [("localhost", "127.0.0.1")]
  taken := []

/-- What comes of sending the line of the configured files on that network. -/
def returnedReport : TransferReport :=
  ⟨"line", configuredClient.address, ⟨1, 11, 0⟩, 11, true, 0, some ([0x61, 0x0A] ++ Line.endRecord)⟩

theorem transferFile_returning :
    (Client.transferFile configured "line" ⟨configuredClient,
      .connected (returning (.v4 [127, 0, 0, 1] 7200))⟩).result = .ok returnedReport := by
  let content := Client.stepsOf (.ok [0x61, 0x0A])
  let connection := returning (.v4 [127, 0, 0, 1] 7200)
  have sent : (Client.sentAlone configuredClient content connection).state.result =
      .ok ⟨1, 11, 0⟩ := by cbv
  have finished : (Client.finishedAlone configuredClient content connection).state.result =
      .ok () := by cbv
  have drained : (Client.drainedAlone configuredClient connection).state.result =
      some (.ok ()) := by cbv
  have report_eq : Client.reportAlone configuredClient content connection "line" ⟨1, 11, 0⟩ =
      returnedReport := by cbv
  rw [← report_eq]
  exact Client.send_of_drained (fun _ => .outward) "line" sent finished drained

theorem connect_responsive :
    Client.connect responsive configuredClient =
      .ok ⟨configuredClient, .connected (returning (.v4 [127, 0, 0, 1] 7200))⟩ := by
  cbv

theorem sendFile_configured :
    Job.sendFile .json configuredClient "line" ⟨configured, responsive, 0⟩ =
      .ok (returnedReport.print .json) := by
  rw [Job.sendFile, connect_responsive]
  show (Client.transferFile configured "line" ⟨configuredClient,
    .connected (returning (.v4 [127, 0, 0, 1] 7200))⟩).result.map _ = _
  rw [transferFile_returning]
  rfl

/-- A transfer that keeps the echo prints its report and the echo, which are no document together;
the version is a document. -/
theorem documents_printed_echo :
    let surroundings : Surroundings := ⟨configured, responsive, 0⟩
    let sending :=
      (forProgram (.send ⟨"line", none, none, none, false, false⟩)).execute surroundings
    let asking := (forProgram .version).execute surroundings
    (sending.result = .ok () ∧
      sending.printed.out =
        Json.documents [returnedReport.toJson, Json.message "a\n--over--\n"] ∧
      ∀ value, Value.parse? sending.printed.out ≠ some value) ∧
    asking.result = .ok () ∧
      Value.parse? asking.printed.out = some (Json.message CommandLine.programVersion) := by
  intro surroundings sending asking
  have sent : sending.result = .ok () := by
    rw [Invocation.result_execute, attempt_configured]
    show (Execution.ofPrinting configured
      (Job.sendFile .json configuredClient "line" surroundings)).result = _
    rw [sendFile_configured]
    rfl
  have answered : asking.result = .ok () := by
    rw [Invocation.result_execute, attempt_configured]
    rfl
  obtain ⟨config, values, based, tells, length_eq, out_eq, parses⟩ := documents_printed rfl sent
  cases based.symm.trans load_configured
  have two : values.length = 2 := length_eq
  have values_eq : values = [returnedReport.toJson, Json.message "a\n--over--\n"] := by
    cases tells with
    | send connected transferred =>
      cases connected.symm.trans connect_responsive
      cases transferred.symm.trans transferFile_returning
      cbv
  obtain ⟨_, _, _, tellsVersion, -, -, parsesVersion⟩ := documents_printed rfl answered
  cases tellsVersion
  refine ⟨⟨sent, values_eq ▸ out_eq, fun value parsed => ?_⟩, answered, (parsesVersion _).2 rfl⟩
  rw [(parses value).1 parsed] at two
  cases two

/-- A configuration that is empty, where there is no other file. -/
def emptyConfiguration : FileSystem :=
  ⟨⟨[(["c.toml"], .file [])]⟩, [], "/root"⟩

/-- The paths of the layers are two documents, which are not one. -/
theorem paths_not_one_document :
    let execution := (forProgram (.config .path)).execute ⟨emptyConfiguration, .isolated, 0⟩
    execution.result = .ok () ∧ ¬∃ value, Value.parse? execution.printed.out = some value := by
  refine ⟨rfl, ?_⟩
  rintro ⟨value, parsed⟩
  have out_eq : ((forProgram (.config .path)).execute
        ⟨emptyConfiguration, .isolated, 0⟩).printed.out =
      Json.documents [Json.message "global: /root/.config/echoline/config.toml",
        Json.message "project: (none)"] := rfl
  rw [out_eq] at parsed
  exact absurd (Json.parse?_documents.1 parsed) (by simp)

end LineEcho
