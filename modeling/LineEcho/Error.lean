import LineEcho.Fault

/-!
# What can go wrong

Every failure of the program is one of these causes, each with the text it is reported by. Those of
one connection leave the others alone.
-/

namespace LineEcho

/-- The parts of a transfer. -/
inductive TransferStage where
  | reading
  | writing
  | finalizing
  deriving DecidableEq, Repr

namespace TransferStage

def all : List TransferStage :=
  [reading, writing, finalizing]

def name : TransferStage → String
  | reading => "reading"
  | writing => "writing"
  | finalizing => "finalizing"

def ofName? (text : String) : Option TransferStage :=
  all.find? (fun stage => stage.name == text)

end TransferStage

/-- The causes of failure. -/
inductive Error where
  | bind (address : String) (cause : Fault)
  | accept (cause : Fault)
  | connection (peer : String) (cause : Fault)
  | connect (address : String) (cause : Fault)
  | transfer (stage : TransferStage) (cause : Fault)
  | config (detail : String)
  | invalidInput (detail : String)
  | output (detail : String)
  | io (cause : Fault)
  deriving DecidableEq, Repr

namespace Error

def message : Error → String
  | bind address cause => "Failed to bind " ++ address ++ ": " ++ cause.text
  | accept cause => "Failed to accept connection: " ++ cause.text
  | connection peer cause => "Connection I/O error with " ++ peer ++ ": " ++ cause.text
  | connect address cause => "Failed to connect to " ++ address ++ ": " ++ cause.text
  | transfer stage cause => "Transfer failed while " ++ stage.name ++ ": " ++ cause.text
  | config detail => "Configuration error: " ++ detail
  | invalidInput detail => "Invalid input: " ++ detail
  | output detail => "Output error: " ++ detail
  | io cause => "I/O error: " ++ cause.text

/-- The fault behind an error, if there is one. -/
def cause? : Error → Option Fault
  | bind _ cause => some cause
  | accept cause => some cause
  | connection _ cause => some cause
  | connect _ cause => some cause
  | transfer _ cause => some cause
  | config _ => none
  | invalidInput _ => none
  | output _ => none
  | io cause => some cause

def isConnectionScoped : Error → Bool
  | accept _ => true
  | connection _ _ => true
  | transfer _ _ => true
  | _ => false

end Error

end LineEcho
