import LineEcho.CommandLine.Grammar
import LineEcho.Text.Shown

/-!
# What is said instead of doing anything

A command line may ask for an explanation or for the version, and it may be one that there is not.
Either way nothing is done but to print a text; its first paragraph is `UsageError.message`.
-/

namespace LineEcho.CommandLine

/-- Why a command line leads to no command. -/
inductive UsageError
  | help (text : String)
  | version
  | nothingAsked (level : Level)
  | missingCommand (level : Level)
  | unknownCommand (word : String)
  | unknownArgument (shown : String)
  | missingArgument (positional : Positional)
  | missingValue (shown : String) (choices : List String)
  | unneededValue (shown value : String)
  | repeated (shown : String)
  | unknownChoice (shown value : String) (choices : List String)
  | refusedValue (shown value reason : String)
  deriving DecidableEq, Repr

namespace UsageError

/-- The line that lists the words an option takes. -/
def choicesLine (choices : List String) : String :=
  if choices.isEmpty then ""
  else "\n  [possible values: " ++ ", ".intercalate choices ++ "]"

/-- The words of the commands of a level, with the one that explains the others. -/
def commandWords (level : Level) : List String :=
  level.commands.map Level.word ++ [Level.helpWord]

/-- The first paragraph of the text, with the words of the command line as they are. -/
def plainMessage : UsageError → String
  | help text => text
  | version => programVersion
  | nothingAsked level => level.about
  | missingCommand level =>
    "error: '" ++ level.fullName ++ "' requires a subcommand but one was not provided\n" ++
      "  [subcommands: " ++ ", ".intercalate (commandWords level) ++ "]"
  | unknownCommand word => "error: unrecognized subcommand '" ++ word ++ "'"
  | unknownArgument shown => "error: unexpected argument '" ++ shown ++ "' found"
  | missingArgument positional =>
    "error: the following required arguments were not provided:\n  " ++ positional.shown
  | missingValue shown choices =>
    "error: a value is required for '" ++ shown ++ "' but none was supplied" ++ choicesLine choices
  | unneededValue shown value =>
    "error: unexpected value '" ++ value ++ "' for '" ++ shown ++ "' found; no more were expected"
  | repeated shown => "error: the argument '" ++ shown ++ "' cannot be used multiple times"
  | unknownChoice shown value choices =>
    "error: invalid value '" ++ value ++ "' for '" ++ shown ++ "'" ++ choicesLine choices
  | refusedValue shown value reason =>
    "error: invalid value '" ++ value ++ "' for '" ++ shown ++ "': " ++ reason

/-- The first paragraph of the text that is printed. Words that a terminal would take for something
else than text are left out. -/
def message (error : UsageError) : String :=
  Text.shown error.plainMessage

/-- The exit status: success if an explanation or the version was asked for. -/
def exitCode : UsageError → Nat
  | help _ => 0
  | version => 0
  | _ => 2

end UsageError

end LineEcho.CommandLine
