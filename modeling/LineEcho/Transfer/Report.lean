import LineEcho.Receipt
import LineEcho.Transfer.Sending

/-!
# Reports of transfers

A report has the counters of what was sent and what is known of the echo.
-/

namespace LineEcho

/-- The outcome of a completed transfer: the names of the file and of the remote, the counters of
what was sent, what came back, and the time that it took. The echo itself is kept on request. -/
structure TransferReport where
  file : String
  remote : String
  counts : SendCounts
  echoedOctets : Nat
  endRecordEchoed : Bool
  elapsedMicros : Nat
  echo : Option Bytes
  deriving DecidableEq, Repr

/-- The report on a file that was sent, given what was received. -/
def TransferReport.of (file remote : String) (counts : SendCounts) (receipt : Receipt)
    (elapsedMicros : Nat) : TransferReport where
  file := file
  remote := remote
  counts := counts
  echoedOctets := receipt.total
  endRecordEchoed := receipt.endsInEndRecord
  elapsedMicros := elapsedMicros
  echo := receipt.captured

end LineEcho
