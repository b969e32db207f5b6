import LineEcho.Config.Basic
import LineEcho.Decimal.Word
import LineEcho.Toml.QuotedStyle

/-!
# Configurations as documents

Every field is written in its fixed order, unset timeouts are left out, and the settings of the
service and of the client are tables after an empty line. Integers of a document have a sign, so
counts of 64 bits beyond the largest such integer cannot be written.
-/

namespace LineEcho

namespace Config

def tomlLine (name : String) (value : List Char) : List Char :=
  name.toList ++ [' ', '=', ' '] ++ value ++ ['\n']

def tomlText (name value : String) : Option (List Char) :=
  some (tomlLine name (Toml.writeQuoted value.toList))

/-- A named natural number, if an integer of a document can hold it. -/
def tomlNumber (name : String) (value : Nat) : Option (List Char) :=
  if value < Word.signedBound then some (tomlLine name (Nat.toDigits 10 value)) else none

def tomlTimeout (name : String) : Option UInt64 → Option (List Char)
  | none => some []
  | some value => tomlNumber name value.toNat

def tomlFlag (name : String) (value : Bool) : Option (List Char) :=
  some (tomlLine name (if value then ['t', 'r', 'u', 'e'] else ['f', 'a', 'l', 's', 'e']))

/-- The header of a table, after an empty line. -/
def tomlHeader (name : String) : Option (List Char) :=
  some (['\n', '['] ++ name.toList ++ [']', '\n'])

def tomlPieces (config : Config) : List (Option (List Char)) :=
  [tomlText "log_level" config.logLevel,
    tomlHeader "service",
    tomlText "host" config.service.host,
    tomlNumber "port" config.service.port.toNat,
    tomlNumber "backlog" config.service.backlog.toNat,
    tomlNumber "buffer_size" config.service.bufferSize.toNat,
    tomlTimeout "read_timeout_ms" config.service.readTimeout,
    tomlTimeout "write_timeout_ms" config.service.writeTimeout,
    tomlHeader "client",
    tomlText "host" config.client.host,
    tomlNumber "port" config.client.port.toNat,
    tomlTimeout "connect_timeout_ms" config.client.connectTimeout,
    tomlTimeout "write_timeout_ms" config.client.writeTimeout,
    tomlTimeout "echo_timeout_ms" config.client.echoTimeout,
    tomlText "line_endings" config.client.lineEndings.name,
    tomlFlag "capture_echo" config.client.captureEcho,
    tomlFlag "nodelay" config.client.noDelay]

/-- Why a configuration cannot be written as a document. -/
def unwritable : String :=
  "out-of-range value for u64 type"

/-- The document of a configuration, if every count fits. -/
def toToml? (config : Config) : Option String :=
  (config.tomlPieces.mapM id).map (fun pieces => String.ofList pieces.flatten)

end Config

end LineEcho
