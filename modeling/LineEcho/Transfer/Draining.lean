import LineEcho.Receipt
import LineEcho.Stream.Machine

/-!
# Draining the echo

Whatever comes back is recorded until the other side closes. One limit covers the whole attempt,
from the moment at which it begins.
-/

namespace LineEcho

/-- An attempt to read the echo to its end. -/
structure Draining where
  receipt : Receipt
  deadline : Option Deadline
  result : Option (Except Fault Unit)

namespace Draining

/-- The room of the buffer that the echo is read into. -/
def room : Nat := 8192

/-- An attempt that begins at a moment and adds to what came back before. -/
def start (now : Instant) (limit : Option Duration) (receipt : Receipt) : Draining :=
  ⟨receipt, limit.map (⟨·, now⟩), none⟩

def request (draining : Draining) : Option Request :=
  if draining.result.isNone then some (.read room) else none

/-- What draining becomes on an answer. A read that was interrupted is a failure like any other. -/
def resume (_now : Instant) (answer : Answer) (draining : Draining) : Draining :=
  match answer with
  | .received [] => { draining with result := some (.ok ()) }
  | .received chunk => { draining with receipt := draining.receipt.record chunk }
  | .failed fault => { draining with result := some (.error fault) }
  | _ => draining

/-- Draining ends at the latest when nothing more comes in. -/
def rank (draining : Draining) : Nat :=
  if draining.result.isNone then 1 else 0

def machine : Machine Draining where
  request := request
  deadline := Draining.deadline
  resume := resume
  rank := rank
  rank_fallback := by
    intro now draining asked asks
    simp only [request] at asks
    split at asks <;> simp_all only [Option.some.injEq, reduceCtorEq]
    subst asks
    simp [Request.fallback, resume, rank, *]
  rank_late := by
    intro now draining asked limit asks
    simp only [request] at asks
    split at asks <;> simp_all only [Option.some.injEq, reduceCtorEq]
    simp [resume, rank, *]

/-- Whether an attempt has come to the end of the echo. -/
def isFinished (draining : Draining) : Bool :=
  match draining.result with
  | some (.ok ()) => true
  | _ => false

/-- The outcome of an attempt that has ended. -/
def outcome (draining : Draining) : Except Fault Unit :=
  draining.result.getD (.ok ())

def run (now : Instant) (limit : Option Duration) (receipt : Receipt) (streams : Streams) :
    Progress Draining :=
  machine.run now (start now limit receipt) streams

end Draining

end LineEcho
