import LineEcho.Output.Format

/-!
# What may stand on the command line

The command line leads through levels: the program itself, its commands, and the commands below
`config`. Each level has options, perhaps one argument without a name, and perhaps commands of its
own. A few options are known everywhere.
-/

namespace LineEcho.CommandLine

/-- A level of the command line. -/
inductive Level
  | program
  | serve
  | send
  | count
  | config
  | configShow
  | configInit
  | configPath
  | version
  deriving DecidableEq, Repr

/-- What the value of an option has to be: any text, a path, a number up to a limit, a count of 64
bits, or one of some words. -/
inductive ValueKind
  | text
  | path
  | number (limit : Nat)
  | count
  | choice (words : List String)
  deriving DecidableEq, Repr

/-- An option: its name, its letter if it has one, and the kind of its value unless it is a flag. -/
structure Parameter where
  name : String
  letter : Option Char
  value : Option ValueKind
  deriving DecidableEq, Repr

/-- An argument without a name: what it is called, and whether it has to be given. Its value is a
path. -/
structure Positional where
  name : String
  isRequired : Bool
  deriving DecidableEq, Repr

/-- The name of the value of an option. -/
def Parameter.valueName (parameter : Parameter) : String :=
  parameter.name.map (fun character => if character = '-' then '_' else character.toUpper)

def Parameter.shown (parameter : Parameter) : String :=
  match parameter.value with
  | none => "--" ++ parameter.name
  | some _ => "--" ++ parameter.name ++ " <" ++ parameter.valueName ++ ">"

/-- An argument without a name as it is shown. -/
def Positional.shown (positional : Positional) : String :=
  if positional.isRequired then "<" ++ positional.name ++ ">" else "[" ++ positional.name ++ "]"

namespace Level

def word : Level → String
  | program => "echoline"
  | serve => "serve"
  | send => "send"
  | count => "count"
  | config => "config"
  | configShow => "show"
  | configInit => "init"
  | configPath => "path"
  | version => "version"

/-- All the words that lead to a level, separated by blanks. -/
def fullName : Level → String
  | program => "echoline"
  | configShow => "echoline config show"
  | configInit => "echoline config init"
  | configPath => "echoline config path"
  | level => "echoline " ++ level.word

def about : Level → String
  | program => "Line-oriented TCP echo service and file transfer client"
  | serve => "Run the echo service until interrupted"
  | send => "Stream a file to an echo service"
  | count => "Count the lines of a file"
  | config => "Configuration management commands"
  | configShow => "Show the effective configuration"
  | configInit => "Create a project configuration"
  | configPath => "Show configuration file locations"
  | version => "Display version information"

def longAbout : Level → String
  | program =>
    "A line-oriented TCP echo service paired with a client that streams a file to it line by line " ++
      "and marks the end with a sentinel record."
  | level => level.about

def commands : Level → List Level
  | program => [serve, send, count, config, version]
  | config => [configShow, configInit, configPath]
  | _ => []

/-- The options that are known at every level. -/
def everywhere : List Parameter :=
  [⟨"verbose", some 'v', none⟩, ⟨"quiet", some 'q', none⟩, ⟨"config", some 'c', some .path⟩,
    ⟨"output", some 'o', some (.choice (OutputFormat.all.map OutputFormat.name))⟩]

def own : Level → List Parameter
  | serve =>
    [⟨"host", none, some .text⟩, ⟨"port", some 'p', some (.number 65535)⟩,
      ⟨"backlog", none, some (.number 4294967295)⟩, ⟨"buffer-size", none, some .count⟩,
      ⟨"read-timeout-ms", none, some .count⟩]
  | send =>
    [⟨"host", none, some .text⟩, ⟨"port", some 'p', some (.number 65535)⟩,
      ⟨"connect-timeout-ms", none, some .count⟩, ⟨"normalize", none, none⟩,
      ⟨"capture", none, none⟩]
  | _ => []

/-- The options that can be given at a level. -/
def parameters (level : Level) : List Parameter :=
  everywhere ++ level.own

/-- The argument without a name that a level takes. -/
def positional? : Level → Option Positional
  | send => some ⟨"FILE", true⟩
  | count => some ⟨"FILE", true⟩
  | configInit => some ⟨"DIR", false⟩
  | _ => none

def command? (level : Level) (word : String) : Option Level :=
  level.commands.find? (fun command => command.word == word)

/-- Whether a level has the command that explains the others. -/
def hasHelp (level : Level) : Bool :=
  !level.commands.isEmpty

/-- The word of the command that explains the others. -/
def helpWord : String := "help"

/-- What the command that explains the others does. -/
def aboutHelp : String := "Print this message or the help of the given subcommand(s)"

end Level

/-- The name and the version of the program. -/
def programVersion : String := "echoline 0.1.0"

end LineEcho.CommandLine
