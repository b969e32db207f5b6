import LineEcho.Execution
import LineEcho.Live.Files
import LineEcho.Live.Sockets

/-!
# The command line

The files that a command line is about are surveyed first. Serving and sending happen on real
connections; all else is carried out on the surveyed files, and what has come of that is kept.
-/

namespace LineEcho.Live

/-- Shows what was printed. -/
def emit (printed : Printed) : IO Unit := do
  (← IO.getStdout).putStr printed.out
  (← IO.getStderr).putStr printed.err

/-- Shows what came of a command, and gives its exit status. -/
def conclude (format : OutputFormat) (result : Except Error Printed) : IO UInt32 := do
  match result with
  | .ok printed =>
    emit printed
    return 0
  | .error error =>
    emit (format.error error.message)
    return 1

/-- Keeps the files that have come about. -/
def keepFiles (invocation : Invocation) (before after : FileSystem) :
    IO (Except Error Printed) := do
  match ← attempt ((pathsOf invocation.command).forM (keep before after)) with
  | .ok () => return .ok .nothing
  | .error fault => return .error (.io fault)

/-- Sends a file and reports on that, with the time since before connecting. -/
def sendFile (format : OutputFormat) (config : ClientConfig) (path : String) :
    IO (Except Error Printed) := do
  let began ← IO.monoNanosNow
  let result ← (send config path).block
  let micros := ((← IO.monoNanosNow) - began) / 1000
  return result.map (fun report => { report with elapsedMicros := micros }.print format)

/-- Carries out what needs nothing but files. -/
def executeOnFiles (invocation : Invocation) (surroundings : Surroundings) : IO UInt32 := do
  let execution := invocation.execute surroundings
  match ← keepFiles invocation surroundings.fileSystem execution.fileSystem with
  | .ok _ =>
    emit execution.printed
    return UInt32.ofNat execution.exitCode
  | .error error => conclude invocation.format (.error error)

/-- Carries out a command line. -/
def execute (invocation : Invocation) : IO UInt32 := do
  let began ← IO.monoNanosNow
  let fileSystem ← survey invocation
  let micros := ((← IO.monoNanosNow) - began) / 1000
  match invocation.job fileSystem with
  | .ok (.serve config) =>
    conclude invocation.format ((← (serve config).block).map (fun _ => .nothing))
  | .ok (.send config path) =>
    conclude invocation.format (← sendFile invocation.format config path)
  | _ => executeOnFiles invocation ⟨fileSystem, .isolated, micros⟩

end LineEcho.Live

open LineEcho in
def main (arguments : List String) : IO UInt32 := do
  match CommandLine.parse arguments with
  | .ok invocation => Live.execute invocation
  | .error usage =>
    let stream ← if usage.exitCode = 0 then IO.getStdout else IO.getStderr
    stream.putStrLn usage.message
    return UInt32.ofNat usage.exitCode
