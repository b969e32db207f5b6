import LineEcho.Config.ToToml
import LineEcho.Json.Value
import LineEcho.LineCount
import LineEcho.Output.Format
import LineEcho.Output.Table
import LineEcho.Transfer.Report

/-!
# How results, messages and errors are shown in each format

`Printed` is what a command leaves on its two outputs. Only a configuration can fail to be shown,
and only as text: its document cannot hold counts of 64 bits beyond the largest integer with a sign.
-/

namespace LineEcho

/-- What was printed on the standard output and on the error output. -/
structure Printed where
  out : String
  err : String
  deriving DecidableEq, Repr

namespace Printed

def nothing : Printed :=
  ⟨"", ""⟩

def onOut (text : String) : Printed :=
  ⟨text, ""⟩

def onErr (text : String) : Printed :=
  ⟨"", text⟩

def append (first second : Printed) : Printed :=
  ⟨first.out ++ second.out, first.err ++ second.err⟩

instance : Append Printed :=
  ⟨append⟩

end Printed

open Json (Value)

namespace TransferReport

/-- A report for people. Its last line is the elapsed time. -/
def toText (report : TransferReport) : String :=
  let counts := report.counts
  "Sent " ++ toString counts.lines ++ " lines (" ++ toString counts.octetsSent ++ " bytes) from " ++
    report.file ++ " to " ++ report.remote ++ "\n" ++
    "Echoed " ++ toString report.echoedOctets ++ " bytes, sentinel " ++
    (if report.endRecordEchoed then "received" else "missing") ++ "\n" ++
    (if counts.collisions = 0 then ""
      else "Warning: " ++ toString counts.collisions ++ " line(s) matched the sentinel record\n") ++
    toString report.elapsedMicros

/-- A report as a document, without the echo. -/
def toJson (report : TransferReport) : Value :=
  .object
    [("file", .text report.file), ("remote", .text report.remote),
      ("lines", .number report.counts.lines), ("bytes_sent", .number report.counts.octetsSent),
      ("sentinel_collisions", .number report.counts.collisions),
      ("echoed_bytes", .number report.echoedOctets),
      ("sentinel_echoed", .boolean report.endRecordEchoed),
      ("elapsed_us", .number report.elapsedMicros)]

def toTable (report : TransferReport) : Output.Table where
  names :=
    ["file", "remote", "lines", "bytes_sent", "echoed", "sentinel", "collisions", "elapsed_us"]
  rows :=
    [[report.file, report.remote, toString report.counts.lines, toString report.counts.octetsSent,
      toString report.echoedOctets, if report.endRecordEchoed then "yes" else "no",
      toString report.counts.collisions, toString report.elapsedMicros]]

/-- A report in a format, without a newline at its end. -/
def render (format : OutputFormat) (report : TransferReport) : String :=
  match format with
  | .text => report.toText
  | .json => report.toJson.pretty
  | .table => report.toTable.draw

end TransferReport

namespace LineCount

def toJson (count : LineCount) : Value :=
  .object
    [("file", .text count.file), ("lines", .number count.lines), ("bytes", .number count.octets),
      ("elapsed_us", .number count.elapsedMicros)]

def toTable (count : LineCount) : Output.Table where
  names := ["file", "lines", "bytes", "elapsed_us"]
  rows :=
    [[count.file, toString count.lines, toString count.octets, toString count.elapsedMicros]]

/-- A count in a format, without a newline at its end. -/
def render (format : OutputFormat) (count : LineCount) : String :=
  match format with
  | .text => toString count.lines ++ " lines\n" ++ toString count.elapsedMicros
  | .json => count.toJson.pretty
  | .table => count.toTable.draw

end LineCount

namespace Config

/-- A timeout in a document, if it is set. -/
def timeoutField (name : String) (timeout : Option UInt64) : List (String × Value) :=
  (timeout.map (fun millis => (name, .number millis.toNat))).toList

/-- A configuration as a document, without its unset timeouts. -/
def toJson (config : Config) : Value :=
  let service := config.service
  let client := config.client
  .object
    [("log_level", .text config.logLevel),
      ("service", .object
        ([("host", .text service.host), ("port", .number service.port.toNat),
          ("backlog", .number service.backlog.toNat),
          ("buffer_size", .number service.bufferSize.toNat)] ++
          timeoutField "read_timeout_ms" service.readTimeout ++
          timeoutField "write_timeout_ms" service.writeTimeout)),
      ("client", .object
        ([("host", .text client.host), ("port", .number client.port.toNat)] ++
          timeoutField "connect_timeout_ms" client.connectTimeout ++
          timeoutField "write_timeout_ms" client.writeTimeout ++
          timeoutField "echo_timeout_ms" client.echoTimeout ++
          [("line_endings", .text client.lineEndings.name),
            ("capture_echo", .boolean client.captureEcho), ("nodelay", .boolean client.noDelay)]))]

def timeoutCell (timeout : Option UInt64) : String :=
  (timeout.map (fun millis => toString millis.toNat ++ " ms")).getD "none"

/-- A configuration as a table of its settings. -/
def toTable (config : Config) : Output.Table where
  names := ["key", "value"]
  rows :=
    [["log_level", config.logLevel],
      ["service.bind", config.service.address],
      ["service.backlog", toString config.service.backlog.toNat],
      ["service.buffer_size", toString config.service.bufferSize.toNat],
      ["service.read_timeout", timeoutCell config.service.readTimeout],
      ["service.write_timeout", timeoutCell config.service.writeTimeout],
      ["client.remote", config.client.address],
      ["client.connect_timeout", timeoutCell config.client.connectTimeout],
      ["client.write_timeout", timeoutCell config.client.writeTimeout],
      ["client.echo_timeout", timeoutCell config.client.echoTimeout],
      ["client.line_endings", config.client.lineEndings.name],
      ["client.capture_echo", toString config.client.captureEcho],
      ["client.nodelay", toString config.client.noDelay]]

/-- A configuration in a format, with a newline at its end. -/
def render (format : OutputFormat) (config : Config) : Except Error String :=
  match format with
  | .text =>
    match config.toToml? with
    | some text => .ok text
    | none => .error (.output ("TOML serialization error: " ++ unwritable))
  | .json => .ok (config.toJson.pretty ++ "\n")
  | .table => .ok (config.toTable.draw ++ "\n")

end Config

namespace OutputFormat

def labelled (label text : String) : String :=
  (Value.object [(label, .text text)]).pretty

def message (format : OutputFormat) (text : String) : Printed :=
  match format with
  | .json => .onOut (labelled "message" text ++ "\n")
  | _ => .onOut (text ++ "\n")

def error (format : OutputFormat) (text : String) : Printed :=
  match format with
  | .json => .onErr (labelled "error" text ++ "\n")
  | _ => .onErr ("Error: " ++ text ++ "\n")

end OutputFormat

end LineEcho
