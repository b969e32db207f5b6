import LineEcho.Error
import LineEcho.Stream.Machine

/-!
# Finishing a transfer

What is queued is flushed, then the direction that goes out is shut down, each under the write
limit.
-/

namespace LineEcho

namespace Finishing

/-- What finishing is at. -/
inductive Phase where
  | flushing (since : Instant)
  | shuttingDown (since : Instant)
  | done (result : Except Error Unit)

end Finishing

/-- The end of a connection's direction that goes out. -/
structure Finishing where
  writeTimeout : Option Duration
  phase : Finishing.Phase

namespace Finishing

def start (now : Instant) (writeTimeout : Option Duration) : Finishing :=
  ⟨writeTimeout, .flushing now⟩

def request (finishing : Finishing) : Option Request :=
  match finishing.phase with
  | .flushing _ => some .flush
  | .shuttingDown _ => some .shutdown
  | .done _ => none

/-- The deadline of the operation that finishing is at. -/
def deadline (finishing : Finishing) : Option Deadline :=
  match finishing.phase with
  | .flushing since => finishing.writeTimeout.map (⟨·, since⟩)
  | .shuttingDown since => finishing.writeTimeout.map (⟨·, since⟩)
  | .done _ => none

def resume (now : Instant) (answer : Answer) (finishing : Finishing) : Finishing :=
  match finishing.phase, answer with
  | .done _, _ => finishing
  | _, .failed fault => { finishing with phase := .done (.error (.transfer .finalizing fault)) }
  | .flushing _, _ => { finishing with phase := .shuttingDown now }
  | .shuttingDown _, _ => { finishing with phase := .done (.ok ()) }

def rank (finishing : Finishing) : Nat :=
  match finishing.phase with
  | .flushing _ => 2
  | .shuttingDown _ => 1
  | .done _ => 0

def machine : Machine Finishing where
  request := request
  deadline := deadline
  resume := resume
  rank := rank
  rank_fallback := by
    intro now finishing asked asks
    rcases finishing with ⟨writeTimeout, phase⟩
    cases phase <;> simp only [request, Option.some.injEq, reduceCtorEq] at asks <;> subst asks <;>
      simp [Request.fallback, resume, rank]
  rank_late := by
    intro now finishing asked limit asks
    rcases finishing with ⟨writeTimeout, phase⟩
    cases phase <;> simp only [request, Option.some.injEq, reduceCtorEq] at asks <;> subst asks <;>
      simp [resume, rank]

/-- The result of finishing once it is done. -/
def result (finishing : Finishing) : Except Error Unit :=
  match finishing.phase with
  | .done result => result
  | _ => .ok ()

def run (now : Instant) (writeTimeout : Option Duration) (streams : Streams) :
    Progress Finishing :=
  machine.run now (start now writeTimeout) streams

end Finishing

end LineEcho
