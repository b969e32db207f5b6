import LineEcho.Error
import LineEcho.Files.FileSystem

/-!
# Counting the lines of a file

Lines are counted the way a transfer splits them: every newline ends one, and what follows the last
newline is another one unless it is empty.
-/

namespace LineEcho

/-- The lines and octets of a file, and the time that counting took. All are natural numbers, taken
never to leave the 64 bits that a machine has for each. -/
structure LineCount where
  file : String
  lines : Nat
  octets : Nat
  elapsedMicros : Nat
  deriving DecidableEq, Repr

/-- Goes on counting the lines and octets of a file, given those of the lines that were counted and
the number of octets of the line that has been begun. A line is counted when its newline has been
read, or when the file ends and the line is not empty. -/
def LineCount.tally (lines octets begun : Nat) : Bytes → Nat × Nat
  | [] => if begun = 0 then (lines, octets) else (lines + 1, octets + begun)
  | octet :: rest =>
    if octet = Bytes.newline then tally (lines + 1) (octets + (begun + 1)) 0 rest
    else tally lines octets (begun + 1) rest

def LineCount.of (file : String) (content : Bytes) (elapsedMicros : Nat) : LineCount :=
  let (lines, octets) := tally 0 0 0 content
  ⟨file, lines, octets, elapsedMicros⟩

/-- Counts a file. That it cannot be opened is the caller's mistake; that it cannot be read is
not. -/
def LineCount.ofFile (fileSystem : FileSystem) (path : String) (elapsedMicros : Nat) :
    Except Error LineCount :=
  match fileSystem.openFile path with
  | .error fault => .error (.invalidInput ("Cannot open " ++ path ++ ": " ++ fault.text))
  | .ok (.error fault) => .error (.io fault)
  | .ok (.ok content) => .ok (.of path content elapsedMicros)

end LineEcho
