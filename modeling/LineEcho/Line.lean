import LineEcho.Bytes

/-!
# Lines on the wire

A transfer is a file's lines in order, closed by one end record. Nothing is escaped, so a terminated
line whose content is that of the end record cannot be told from it; `Line.isEndRecord` recognises
such lines. An unterminated last line never is one, because on the wire the end record follows it
directly.
-/

namespace LineEcho

namespace Line

/-- An octet string without the given octet at its end, if it stands there. -/
def dropEnd (last : UInt8) (bytes : Bytes) : Bytes :=
  if bytes.getLast? = some last then bytes.dropLast else bytes

/-- What a line holds besides its terminator, which is a newline with or without a carriage return
before it. -/
def content (line : Bytes) : Bytes :=
  dropEnd Bytes.carriageReturn (dropEnd Bytes.newline line)

def isTerminated (line : Bytes) : Bool :=
  line.getLast? == some Bytes.newline

/-- The content of the end record, which reads `--over--`. -/
def endContent : Bytes :=
  [0x2D, 0x2D, 0x6F, 0x76, 0x65, 0x72, 0x2D, 0x2D]

def endRecord : Bytes :=
  endContent ++ [Bytes.newline]

/-- Whether a receiver takes a line for the end record. -/
def isEndRecord (line : Bytes) : Bool :=
  isTerminated line && content line == endContent

end Line

/-- What becomes of the line terminators of a file on their way. -/
inductive LineEndings
  | preserve
  | normalize
  deriving DecidableEq, Repr, Inhabited

namespace LineEndings

def all : List LineEndings :=
  [preserve, normalize]

def name : LineEndings → String
  | preserve => "preserve"
  | normalize => "normalize"

def ofName? (text : String) : Option LineEndings :=
  all.find? (fun mode => mode.name == text)

/-- A line as it is sent: unchanged, or its content and one newline. -/
def apply : LineEndings → Bytes → Bytes
  | preserve, line => line
  | normalize, line => Line.content line ++ [Bytes.newline]

end LineEndings

end LineEcho
