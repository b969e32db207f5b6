import LineEcho.Error
import LineEcho.Line

/-!
# The configuration of the service and of the client

Every field has a default, and `Config.validate` says which values are refused: the service's fields
are checked before the client's, and the log level first of all.
-/

namespace LineEcho

namespace Config

def defaultLogLevel : String :=
  "info"

def defaultHost : String :=
  "localhost"

def defaultPort : UInt16 :=
  5555

def defaultBacklog : UInt32 :=
  1024

def defaultBufferSize : UInt64 :=
  8192

def defaultNoDelay : Bool :=
  true

end Config

/-- The settings of the echo service. Timeouts are in milliseconds. -/
structure ServiceConfig where
  host : String
  port : UInt16
  backlog : UInt32
  bufferSize : UInt64
  readTimeout : Option UInt64
  writeTimeout : Option UInt64
  deriving DecidableEq, Repr

instance : Inhabited ServiceConfig :=
  ⟨Config.defaultHost, Config.defaultPort, Config.defaultBacklog, Config.defaultBufferSize, none,
    none⟩

/-- The settings of the client. Timeouts are in milliseconds. -/
structure ClientConfig where
  host : String
  port : UInt16
  connectTimeout : Option UInt64
  writeTimeout : Option UInt64
  echoTimeout : Option UInt64
  lineEndings : LineEndings
  captureEcho : Bool
  noDelay : Bool
  deriving DecidableEq, Repr

instance : Inhabited ClientConfig :=
  ⟨Config.defaultHost, Config.defaultPort, none, none, none, default, false,
    Config.defaultNoDelay⟩

/-- A whole configuration. -/
structure Config where
  logLevel : String
  service : ServiceConfig
  client : ClientConfig
  deriving DecidableEq, Repr

instance : Inhabited Config :=
  ⟨Config.defaultLogLevel, default, default⟩

def timeoutOf (millis : Option UInt64) : Option Duration :=
  millis.map (fun count => Duration.ofMillis count.toNat)

/-- A host and a port as they are shown. -/
def hostAndPort (host : String) (port : UInt16) : String :=
  host ++ ":" ++ toString port.toNat

namespace ServiceConfig

def address (config : ServiceConfig) : String :=
  hostAndPort config.host config.port

/-- Refuses an empty buffer, then an empty backlog. -/
def validate (config : ServiceConfig) : Except Error Unit :=
  if config.bufferSize = 0 then
    .error (.config "service.buffer_size must be greater than zero")
  else if config.backlog = 0 then .error (.config "service.backlog must be greater than zero")
  else .ok ()

end ServiceConfig

namespace ClientConfig

def address (config : ClientConfig) : String :=
  hostAndPort config.host config.port

/-- Refuses a port that stands for any port. -/
def validate (config : ClientConfig) : Except Error Unit :=
  if config.port = 0 then .error (.config "client.port must be a concrete port, not 0")
  else .ok ()

end ClientConfig

namespace Config

def logLevels : List String :=
  ["error", "warn", "info", "debug", "trace"]

/-- Refuses a log level that there is not, then what the service and the client refuse. -/
def validate (config : Config) : Except Error Unit :=
  if logLevels.contains config.logLevel then do
    config.service.validate
    config.client.validate
  else .error (.config ("Unknown log level '" ++ config.logLevel ++ "'"))

/-- The filter for the log of a run: the program's own messages at the chosen level, or at `debug`
if it is to be verbose, and the warnings of everything else. -/
def logDirective (level : String) (verbose : Bool) : String :=
  "echoline=" ++ (if verbose then "debug" else level) ++ ",warn"

end Config

end LineEcho
