import LineEcho.Client
import LineEcho.Job
import LineEcho.LineCount
import LineEcho.Output.Render
import LineEcho.Server.Basic

/-!
# Carrying out a command line

An execution has a result and leaves behind what it printed and the files. `Invocation.execute`
reports a failure on the error output, once, after whatever was printed before.
-/

namespace LineEcho

/-- What a command line is carried out in: the files, the network, and the microseconds that a
clock shows for the work on a file. -/
structure Surroundings where
  fileSystem : FileSystem
  network : Network
  fileMicros : Nat

/-- The result of carrying something out, what was printed, and the files from then on. -/
structure Execution where
  result : Except Error Unit
  printed : Printed
  fileSystem : FileSystem

namespace Execution

/-- An execution that failed without having printed anything. -/
def failed (error : Error) (fileSystem : FileSystem) : Execution :=
  ⟨.error error, .nothing, fileSystem⟩

def done (printed : Printed) (fileSystem : FileSystem) : Execution :=
  ⟨.ok (), printed, fileSystem⟩

/-- An execution that changes no file: it prints something or fails. -/
def ofPrinting (fileSystem : FileSystem) : Except Error Printed → Execution
  | .ok printed => done printed fileSystem
  | .error error => failed error fileSystem

/-- The exit status: failure of whatever kind is one. -/
def exitCode (execution : Execution) : Nat :=
  match execution.result with
  | .ok () => 0
  | .error _ => 1

end Execution

namespace TransferReport

/-- Prints a report, and after it the echo as a message if it was kept. -/
def print (format : OutputFormat) (report : TransferReport) : Printed :=
  let shown := Printed.onOut (report.render format ++ "\n")
  match report.echo with
  | some echo => shown ++ format.message (Bytes.textLossy echo)
  | none => shown

end TransferReport

namespace Job

/-- Binds a server and lets it serve until it is interrupted. Serving prints nothing. -/
def serveUntilInterrupted (config : ServiceConfig) (network : Network) : Except Error Printed := do
  let (server, _) ← Server.bind config network
  server.serve.2
  return .nothing

/-- Connects and transfers a file, and reports on that with the time since before connecting. -/
def sendFile (format : OutputFormat) (config : ClientConfig) (file : String)
    (surroundings : Surroundings) : Except Error Printed := do
  let client ← Client.connect surroundings.network config
  let report ← (client.transferFile surroundings.fileSystem file).result
  let connected := Client.microsBetween 0 client.since
  return { report with elapsedMicros := connected + report.elapsedMicros }.print format

/-- The path of a configuration file, if there is one. -/
def describePath (path : Option String) : String :=
  path.getD "(none)"

/-- Prints where the layers of the configuration are. -/
def printPaths (format : OutputFormat) (layers : ConfigLayers) : Printed :=
  format.message ("global: " ++ describePath layers.global) ++
    format.message ("project: " ++ describePath layers.project)

def perform (format : OutputFormat) (surroundings : Surroundings) (job : Job) : Execution :=
  let fileSystem := surroundings.fileSystem
  match job with
  | serve config => .ofPrinting fileSystem (serveUntilInterrupted config surroundings.network)
  | send config file => .ofPrinting fileSystem (sendFile format config file surroundings)
  | count file =>
    .ofPrinting fileSystem
      ((LineCount.ofFile fileSystem file surroundings.fileMicros).map
        (fun count => .onOut (count.render format ++ "\n")))
  | showConfig config => .ofPrinting fileSystem ((config.render format).map .onOut)
  | initConfig directory =>
    match Config.initProject directory fileSystem with
    | (made, .ok path) => .done (format.message ("Created " ++ path)) made
    | (made, .error error) => .failed error made
  | showPaths => .done (printPaths format (.discover fileSystem)) fileSystem
  | version => .done (format.message CommandLine.programVersion) fileSystem

end Job

namespace Invocation

/-- Carries out what a command line asks for, up to the report of a failure. -/
def attempt (surroundings : Surroundings) (invocation : Invocation) : Execution :=
  match invocation.job surroundings.fileSystem with
  | .ok job => job.perform invocation.format surroundings
  | .error error => .failed error surroundings.fileSystem

/-- Carries out what a command line asks for. A failure is reported in the chosen format. -/
def execute (surroundings : Surroundings) (invocation : Invocation) : Execution :=
  let execution := invocation.attempt surroundings
  match execution.result with
  | .ok () => execution
  | .error error =>
    { execution with printed := execution.printed ++ invocation.format.error error.message }

end Invocation

end LineEcho
