import LineEcho.CommandLine.Integer
import LineEcho.CommandLine.UsageError

/-!
# Reading the command line word by word

At each level the words settle values. The value of an option may be attached to it or be the next
word; in the latter case the option stays pending, and it is settled only when the next option or
argument is, or at the end of the level. Which of two faults is reported follows from that order. A
level is closed after the level below it.
-/

namespace LineEcho.CommandLine

/-- What a value belongs to. -/
inductive Target
  | option (parameter : Parameter)
  | argument (positional : Positional)
  deriving DecidableEq, Repr

namespace Target

/-- The name under which a value is kept. -/
def name : Target → String
  | option parameter => parameter.name
  | argument positional => positional.name

def shown : Target → String
  | option parameter => parameter.shown
  | argument positional => positional.shown

/-- The kind of value that a target takes, unless it takes none. -/
def kind? : Target → Option ValueKind
  | option parameter => parameter.value
  | argument _ => some .path

/-- The words from which the value has to be chosen, if it has to. -/
def choices (target : Target) : List String :=
  match target.kind? with
  | some (.choice words) => words
  | _ => []

/-- Refuses a value that is not of the kind that a target takes. -/
def check (target : Target) (value : String) : Except UsageError Unit :=
  let refuse (reason : String) : Except UsageError Unit :=
    .error (.refusedValue target.shown value reason)
  match target.kind? with
  | none => .ok ()
  | some .text => .ok ()
  | some .path => if value.isEmpty then .error (.missingValue target.shown []) else .ok ()
  | some (.number limit) => match readBounded limit value with
    | .ok _ => .ok ()
    | .error reason => refuse reason
  | some .count => match readCount value with
    | .ok _ => .ok ()
    | .error reason => refuse reason
  | some (.choice words) =>
    if words.contains value then .ok ()
    else if value.isEmpty then .error (.missingValue target.shown words)
    else .error (.unknownChoice target.shown value words)

end Target

/-- The values that were settled at a level. A flag has an empty value. -/
abbrev Values := List (String × String)

/-- How far the words of a level have been read: the values settled so far, the target that waits to
be settled with the value that it has got, whether the level's argument was given, and whether every
further word is an argument. -/
structure Progress where
  values : Values
  pending : Option (Target × Option String)
  hasArgument : Bool
  onlyArguments : Bool
  deriving DecidableEq, Repr

namespace Progress

def start : Progress :=
  ⟨[], none, false, false⟩

/-- Settles a value. A target can be given only once. -/
def settle (target : Target) (value : Option String) (progress : Progress) :
    Except UsageError Progress :=
  if target.kind?.isSome ∧ value.isNone then
    .error (.missingValue target.shown target.choices)
  else if (progress.values.lookup target.name).isSome then .error (.repeated target.shown)
  else do
    let value := value.getD ""
    target.check value
    .ok { progress with values := progress.values ++ [(target.name, value)] }

def settlePending (progress : Progress) : Except UsageError Progress :=
  match progress.pending with
  | none => .ok progress
  | some (target, value) => { progress with pending := none }.settle target value

/-- The option that still waits for its value. -/
def waiting? (progress : Progress) : Option Target :=
  match progress.pending with
  | some (target, none) => some target
  | _ => none

/-- Gives an option a value that is attached to it. -/
def attach (parameter : Parameter) (value : String) (progress : Progress) :
    Except UsageError Progress := do
  (← progress.settlePending).settle (.option parameter) (some value)

/-- Gives a flag, or an option whose value is to follow. -/
def give (parameter : Parameter) (progress : Progress) : Except UsageError Progress := do
  let progress ← progress.settlePending
  match parameter.value with
  | none => progress.settle (.option parameter) none
  | some _ => .ok { progress with pending := some (.option parameter, none) }

end Progress

def Level.explanation (isLong : Bool) (level : Level) : String :=
  if isLong then level.longAbout else level.about

namespace Level

/-- Asks for an explanation or the version, if nothing that is pending is at fault. -/
def ask (error : UsageError) (progress : Progress) : Except UsageError Progress := do
  let _ ← progress.settlePending
  .error error

/-- Reads a word that begins with two dashes: the name of an option and perhaps a value. -/
def readLong (level : Level) (name : String) (value : Option String) (progress : Progress) :
    Except UsageError Progress :=
  let special : Option UsageError :=
    if name = "help" then some (.help (level.explanation true))
    else if name = "version" ∧ level = .program then some .version
    else none
  match special, level.parameters.find? (fun parameter => parameter.name == name), value with
  | some _, _, some value => .error (.unneededValue ("--" ++ name) value)
  | some error, _, none => ask error progress
  | none, some parameter, none => progress.give parameter
  | none, some parameter, some value =>
    if parameter.value.isSome then progress.attach parameter value
    else .error (.unneededValue parameter.shown value)
  | none, none, _ => .error (.unknownArgument ("--" ++ name))

/-- Reads the letters of a word that begins with one dash. The rest of the word after an option that
takes a value is that value, perhaps after an equals sign. -/
def readLetters (level : Level) : List Char → Progress → Except UsageError Progress
  | [], progress => .ok progress
  | letter :: rest, progress =>
    if letter = 'h' then ask (.help (level.explanation false)) progress
    else if letter = 'V' ∧ level = .program then ask .version progress
    else
      match level.parameters.find? (fun parameter => parameter.letter == some letter) with
      | none => .error (.unknownArgument (String.ofList ['-', letter]))
      | some parameter =>
        match parameter.value, rest with
        | none, _ => do readLetters level rest (← progress.give parameter)
        | some _, [] => progress.give parameter
        | some _, '=' :: value => progress.attach parameter (String.ofList value)
        | some _, value => progress.attach parameter (String.ofList value)

/-- Reads a word that is no option: the value that an option waits for, or the level's argument. -/
def readArgument (level : Level) (word : String) (progress : Progress) :
    Except UsageError Progress :=
  match if progress.onlyArguments then none else progress.waiting? with
  | some target => .ok { progress with pending := some (target, some word) }
  | none =>
    match if progress.hasArgument then none else level.positional? with
    | some positional => do
      let progress ← progress.settlePending
      .ok { progress with pending := some (.argument positional, some word), hasArgument := true }
    | none =>
      let isCommand := (level.command? word).isSome || (level.hasHelp && word == helpWord)
      if level.hasHelp ∧ ¬(progress.onlyArguments ∧ isCommand) then .error (.unknownCommand word)
      else .error (.unknownArgument word)

def readWord (level : Level) (word : String) (progress : Progress) :
    Except UsageError Progress :=
  if progress.onlyArguments then level.readArgument word progress
  else
    match word.toList with
    | ['-', '-'] => .ok { progress with onlyArguments := true }
    | '-' :: '-' :: rest =>
      let name := rest.takeWhile (· != '=')
      let value := (rest.drop name.length).tail?.map String.ofList
      level.readLong (String.ofList name) value progress
    | '-' :: letter :: rest => level.readLetters (letter :: rest) progress
    | _ => level.readArgument word progress

/-- The explanation of the command that some words lead to. -/
def explain : Level → List String → UsageError
  | level, [] => .help level.longAbout
  | level, word :: rest =>
    match level.command? word with
    | some command => explain command rest
    | none =>
      if level.hasHelp ∧ word = helpWord then
        match rest with
        | [] => .help aboutHelp
        | word :: _ => .unknownCommand word
      else .unknownCommand word

/-- Closes a level, given whether a command followed. A level with commands needs one of them, and
what is required has to be there. -/
def close (level : Level) (hasCommand : Bool) (progress : Progress) :
    Except UsageError Values := do
  let values := (← progress.settlePending).values
  if level.hasHelp ∧ ¬hasCommand then
    .error (if values.isEmpty then .nothingAsked level else .missingCommand level)
  else
    match level.positional? with
    | some positional =>
      if positional.isRequired ∧ (values.lookup positional.name).isNone then
        .error (.missingArgument positional)
      else .ok values
    | none => .ok values

/-- Whether a word can be a command at this point. -/
def expectsCommand (progress : Progress) : Bool :=
  !progress.onlyArguments && progress.waiting?.isNone

/-- Reads the words of a level and of those below it: the levels with their values. -/
def read (level : Level) (progress : Progress) : List String →
    Except UsageError (List (Level × Values))
  | [] => do .ok [(level, ← level.close false progress)]
  | word :: rest =>
    match if expectsCommand progress then level.command? word else none with
    | some command => do
      let below ← command.read .start rest
      .ok ((level, ← level.close true progress) :: below)
    | none =>
      if expectsCommand progress ∧ level.hasHelp ∧ word = helpWord then .error (level.explain rest)
      else do level.read (← level.readWord word progress) rest

end Level

end LineEcho.CommandLine
