import LineEcho.CommandLine.Parse

/-!
# What a command line asks for

An invocation is a command with its own options and those that every command takes.
-/

namespace LineEcho

/-- Settings of the service that the command line replaces. Timeouts are in milliseconds. -/
structure ServeOptions where
  host : Option String
  port : Option UInt16
  backlog : Option UInt32
  bufferSize : Option UInt64
  readTimeout : Option UInt64
  deriving DecidableEq, Repr

/-- A file to send, and settings of the client that the command line replaces. Timeouts are in
milliseconds. -/
structure SendOptions where
  file : String
  host : Option String
  port : Option UInt16
  connectTimeout : Option UInt64
  normalize : Bool
  capture : Bool
  deriving DecidableEq, Repr

/-- What is to be done about the configuration. -/
inductive ConfigAction
  | show
  | init (directory : String)
  | path
  deriving DecidableEq, Repr

/-- What is to be done. -/
inductive Command
  | serve (options : ServeOptions)
  | send (options : SendOptions)
  | count (file : String)
  | config (action : ConfigAction)
  | version
  deriving DecidableEq, Repr

/-- A whole command line. -/
structure Invocation where
  isVerbose : Bool
  isQuiet : Bool
  configFile : Option String
  format : OutputFormat
  command : Command
  deriving DecidableEq, Repr

namespace CommandLine

def Values.number? (values : Values) (limit : Nat) (name : String) : Option Nat :=
  (values.lookup name).bind (fun value => (readBounded limit value).toOption)

def Values.count? (values : Values) (name : String) : Option UInt64 :=
  ((values.lookup name).bind (fun value => (readCount value).toOption)).map UInt64.ofNat

def Values.port? (values : Values) : Option UInt16 :=
  (values.number? 65535 "port").map UInt16.ofNat

def Values.has (values : Values) (name : String) : Bool :=
  (values.lookup name).isSome

def Values.serveOptions (values : Values) : ServeOptions where
  host := values.lookup "host"
  port := values.port?
  backlog := (values.number? 4294967295 "backlog").map UInt32.ofNat
  bufferSize := values.count? "buffer-size"
  readTimeout := values.count? "read-timeout-ms"

def Values.sendOptions (values : Values) : SendOptions where
  file := (values.lookup "FILE").getD ""
  host := values.lookup "host"
  port := values.port?
  connectTimeout := values.count? "connect-timeout-ms"
  normalize := values.has "normalize"
  capture := values.has "capture"

/-- The command of a level with its values, if the level is a command. -/
def Level.asCommand? (values : Values) : Level → Option Command
  | .program => none
  | .config => none
  | .serve => some (.serve values.serveOptions)
  | .send => some (.send values.sendOptions)
  | .count => some (.count ((values.lookup "FILE").getD ""))
  | .configShow => some (.config .show)
  | .configInit => some (.config (.init ((values.lookup "DIR").getD ".")))
  | .configPath => some (.config .path)
  | .version => some .version

/-- The value of an option that is known everywhere. The innermost level decides. -/
def everywhere? (levels : List (Level × Values)) (name : String) : Option String :=
  levels.reverse.findSome? (fun (_, values) => values.lookup name)

/-- What levels with their values ask for, if the innermost one is a command. -/
def invocation? (levels : List (Level × Values)) : Option Invocation := do
  let (level, values) ← levels.getLast?
  let command ← level.asCommand? values
  some
    { isVerbose := (everywhere? levels "verbose").isSome
      isQuiet := (everywhere? levels "quiet").isSome
      configFile := everywhere? levels "config"
      format := ((everywhere? levels "output").bind OutputFormat.ofName?).getD default
      command := command }

/-- Reads a command line, without the name of the program. -/
def parse (words : List String) : Except UsageError Invocation := do
  match invocation? (← Level.program.read .start words) with
  | some invocation => .ok invocation
  | none => .error (.nothingAsked .program)

end CommandLine

end LineEcho
