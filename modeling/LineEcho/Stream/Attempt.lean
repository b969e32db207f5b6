import LineEcho.Stream.Machine

/-!
# Single operations

A flush or a shutdown is attempted by itself, under an optional limit.
-/

namespace LineEcho

/-- One flush or shutdown, the limit on it, the moment at which it began, and its result once it is
over. -/
structure Attempt where
  asked : Request
  deadline : Option Deadline
  result : Option (Except Fault Unit)

namespace Attempt

def start (asked : Request) (limit : Option Duration) (now : Instant) : Attempt :=
  ⟨asked, limit.map (⟨·, now⟩), none⟩

/-- The result that an answer gives an operation. -/
def resultOf : Answer → Except Fault Unit
  | .failed fault => .error fault
  | _ => .ok ()

def machine : Machine Attempt where
  request := fun attempt => if attempt.result.isNone then some attempt.asked else none
  deadline := Attempt.deadline
  resume := fun _ answer attempt => { attempt with result := some (resultOf answer) }
  rank := fun attempt => if attempt.result.isNone then 1 else 0
  rank_fallback := by
    intro now attempt asked asks
    split at asks <;> simp_all
  rank_late := by
    intro now attempt asked limit asks
    split at asks <;> simp_all

/-- Waits for an operation from the start of the clock, at most as long as the limit allows, and
says when it was over. -/
def within (limit : Option Duration) (steps : List (Step Signal)) : Instant × Except Fault Unit :=
  let streams : Streams := { (default : Streams) with flushes := .ofSteps steps }
  let progress := machine.run 0 (start .flush limit 0) streams
  (progress.now, progress.state.result.getD (.ok ()))

end Attempt

end LineEcho
