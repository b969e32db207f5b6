/-!
# What a terminal shows of a text

Control characters other than blanks show nothing, and neither do escape sequences. A sequence
begins with an escape character; a bracket makes it last up to a letter, other marks up to the next
bell or escape character. A blank inside a sequence breaks it off.
-/

namespace LineEcho.Text

/-- What a terminal is at: showing, or inside a sequence of one of the kinds. -/
inductive Terminal where
  | showing
  | escape
  | marked
  | bracketed
  | titled
  | hidden
  deriving DecidableEq, Repr

namespace Terminal

def escapeChar : Char := '\x1B'

def isCancel (character : Char) : Bool :=
  character == '\x18' || character == '\x1A'

def isBlank (character : Char) : Bool :=
  character == '\t' || character == '\n' || character == '\x0C' || character == '\r'

/-- Whether a character shows nothing outside of sequences. -/
def isControl (character : Char) : Bool :=
  character < ' ' || character == '\x7F'

/-- Whether a character stands between two others in the order of the code. -/
def between (low high character : Char) : Bool :=
  low ≤ character && character ≤ high

/-- Where the character after an escape character leads. -/
def afterEscape (character : Char) : Terminal :=
  if character = '[' then bracketed
  else if character = ']' then titled
  else if character = 'P' ∨ character = 'X' ∨ character = '^' ∨ character = '_' then hidden
  else if between ' ' '/' character then marked
  else if isControl character then escape
  else showing

/-- Where a character in a sequence leads that has no kind of its own. -/
def afterMark (character : Char) : Terminal :=
  if between ' ' '/' character || isControl character then marked else showing

/-- Where a character in a bracketed sequence leads. -/
def afterBracket (character : Char) : Terminal :=
  if between '@' '~' character then showing else bracketed

/-- Whether a character is shown in a sequence all the same, which breaks the sequence off. -/
def breaks (character : Char) : Bool :=
  isBlank character || '\x7F' < character

/-- Takes one character: whether it is shown, and what the terminal is at then. -/
def step (terminal : Terminal) (character : Char) : Bool × Terminal :=
  if character = escapeChar then (false, escape)
  else if isCancel character then (false, showing)
  else
    match terminal with
    | showing => (!isControl character || isBlank character, showing)
    | escape => if breaks character then (true, showing) else (false, afterEscape character)
    | marked => if breaks character then (true, showing) else (false, afterMark character)
    | bracketed => if breaks character then (true, showing) else (false, afterBracket character)
    | titled => (false, if character = '\x07' then showing else titled)
    | hidden => (false, hidden)

def shown : Terminal → List Char → List Char
  | _, [] => []
  | terminal, character :: rest =>
    let (isShown, next) := step terminal character
    if isShown then character :: shown next rest else shown next rest

end Terminal

def shown (text : String) : String :=
  String.ofList (Terminal.shown .showing text.toList)

end LineEcho.Text
