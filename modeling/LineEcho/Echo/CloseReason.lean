/-!
# Reasons for the end of an echo

A session notes why it left its loop, and its summary says so.
-/

namespace LineEcho

/-- Why a connection left the echo loop, with the text of the fault if it was one. -/
inductive CloseReason where
  | peerClosed
  | readFailed (text : String)
  | writeFailed (text : String)
  deriving DecidableEq, Repr

def CloseReason.text : CloseReason → String
  | peerClosed => "peer closed"
  | readFailed fault => "read failed: " ++ fault
  | writeFailed fault => "write failed: " ++ fault

end LineEcho
