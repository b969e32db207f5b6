import LineEcho.Duration

/-!
# Failures of input and output

A fault has a kind and the text that is shown for it. `Fault.plain` takes the text from the kind,
`Fault.ofSystem` from the operating system's table of error numbers, and `Fault.noProgress` is the
fault of an operation that missed its deadline.
-/

namespace LineEcho

/-- The kinds of input and output failures. -/
inductive FaultKind
  | notFound
  | permissionDenied
  | connectionRefused
  | connectionReset
  | connectionAborted
  | notConnected
  | addressInUse
  | addressNotAvailable
  | networkUnreachable
  | brokenPipe
  | alreadyExists
  | wouldBlock
  | notADirectory
  | isADirectory
  | invalidInput
  | invalidData
  | invalidFilename
  | timedOut
  | writeZero
  | interrupted
  | unsupported
  | unexpectedEnd
  | outOfMemory
  | other
  deriving DecidableEq, Repr, Inhabited

namespace FaultKind

def all : List FaultKind :=
  [notFound, permissionDenied, connectionRefused, connectionReset, connectionAborted, notConnected,
    addressInUse, addressNotAvailable, networkUnreachable, brokenPipe, alreadyExists, wouldBlock,
    notADirectory, isADirectory, invalidInput, invalidData, invalidFilename, timedOut, writeZero,
    interrupted, unsupported, unexpectedEnd, outOfMemory, other]

/-- What a fault of the kind says of itself when it carries no text of its own. -/
def description : FaultKind → String
  | notFound => "entity not found"
  | permissionDenied => "permission denied"
  | connectionRefused => "connection refused"
  | connectionReset => "connection reset"
  | connectionAborted => "connection aborted"
  | notConnected => "not connected"
  | addressInUse => "address in use"
  | addressNotAvailable => "address not available"
  | networkUnreachable => "network unreachable"
  | brokenPipe => "broken pipe"
  | alreadyExists => "entity already exists"
  | wouldBlock => "operation would block"
  | notADirectory => "not a directory"
  | isADirectory => "is a directory"
  | invalidInput => "invalid input parameter"
  | invalidData => "invalid data"
  | invalidFilename => "invalid filename"
  | timedOut => "timed out"
  | writeZero => "write zero"
  | interrupted => "operation interrupted"
  | unsupported => "unsupported"
  | unexpectedEnd => "unexpected end of file"
  | outOfMemory => "out of memory"
  | other => "other error"

end FaultKind

/-- A failed input or output operation. -/
structure Fault where
  kind : FaultKind
  text : String
  deriving DecidableEq, Repr, Inhabited

/-- The numbered errors of the operating system that the program can meet. -/
inductive SystemError
  | noEntry
  | alreadyExists
  | notADirectory
  | isADirectory
  | nameTooLong
  | addressInUse
  | addressNotAvailable
  | networkUnreachable
  | connectionRefused
  deriving DecidableEq, Repr

namespace SystemError

def number : SystemError → Nat
  | noEntry => 2
  | alreadyExists => 17
  | notADirectory => 20
  | isADirectory => 21
  | nameTooLong => 36
  | addressInUse => 98
  | addressNotAvailable => 99
  | networkUnreachable => 101
  | connectionRefused => 111

def all : List SystemError :=
  [noEntry, alreadyExists, notADirectory, isADirectory, nameTooLong, addressInUse,
    addressNotAvailable, networkUnreachable, connectionRefused]

def ofNumber? (wanted : Nat) : Option SystemError :=
  all.find? (fun error => error.number == wanted)

/-- What the operating system says of an error. -/
def description : SystemError → String
  | noEntry => "No such file or directory"
  | alreadyExists => "File exists"
  | notADirectory => "Not a directory"
  | isADirectory => "Is a directory"
  | nameTooLong => "File name too long"
  | addressInUse => "Address already in use"
  | addressNotAvailable => "Cannot assign requested address"
  | networkUnreachable => "Network is unreachable"
  | connectionRefused => "Connection refused"

/-- The kind of fault that an error is. -/
def kind : SystemError → FaultKind
  | noEntry => .notFound
  | alreadyExists => .alreadyExists
  | notADirectory => .notADirectory
  | isADirectory => .isADirectory
  | nameTooLong => .invalidFilename
  | addressInUse => .addressInUse
  | addressNotAvailable => .addressNotAvailable
  | networkUnreachable => .networkUnreachable
  | connectionRefused => .connectionRefused

end SystemError

namespace Fault

/-- A fault that carries no text of its own. -/
def plain (kind : FaultKind) : Fault :=
  ⟨kind, kind.description⟩

/-- The fault that reports an error of the operating system. -/
def ofSystem (error : SystemError) : Fault :=
  ⟨error.kind, error.description ++ " (os error " ++ toString error.number ++ ")"⟩

/-- The fault of an operation that did not finish within its limit. -/
def noProgress (limit : Duration) : Fault :=
  ⟨.timedOut, "no progress within " ++ limit.text⟩

/-- The fault of a write that accepted nothing. -/
def writeZero : Fault :=
  plain .writeZero

/-- The fault of driving a connection that is closed already. -/
def alreadyClosed : Fault :=
  ⟨.notConnected, "connection already closed"⟩

/-- The fault of a path that holds the null character, which no file name can. -/
def nullInPath : Fault :=
  ⟨.invalidInput, "file name contained an unexpected NUL byte"⟩

/-- The fault of a text file whose octets are no text. -/
def notText : Fault :=
  ⟨.invalidData, "stream did not contain valid UTF-8"⟩

end Fault

end LineEcho
