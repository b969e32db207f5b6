/-!
# The stages of a transfer

A transfer connects, streams its file and finalizes; after that it is closed, or it has failed.
-/

namespace LineEcho

/-- The stages of a transfer's life as they are shown. -/
inductive TransferState where
  | connecting
  | streaming
  | finalizing
  | closed
  | failed
  deriving DecidableEq, Repr

namespace TransferState

def all : List TransferState :=
  [connecting, streaming, finalizing, closed, failed]

def name : TransferState → String
  | connecting => "Connecting"
  | streaming => "Streaming"
  | finalizing => "Finalizing"
  | closed => "Closed"
  | failed => "Failed"

end TransferState

end LineEcho
