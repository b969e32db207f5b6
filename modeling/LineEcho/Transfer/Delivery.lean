import LineEcho.Transfer.Finishing
import LineEcho.Transfer.Sending

/-!
# The way out of a transfer

A delivery sends a file with its end record and then finishes the connection's direction that goes
out. It is one party, which goes from the one to the other at the moment at which sending is done.
-/

namespace LineEcho

/-- A file on its way out, up to the end of the direction that it goes out on. -/
inductive Delivery where
  | sending (sending : Sending)
  | finishing (counts : SendCounts) (finishing : Finishing)
  | ended (result : Except Error SendCounts)

namespace Delivery

/-- Goes over to what comes next once a part is done. -/
def settle (now : Instant) : Delivery → Delivery
  | sending part =>
    match part.phase with
    | .done (.ok counts) => finishing counts (.start now part.writeTimeout)
    | .done (.error error) => ended (.error error)
    | _ => sending part
  | finishing counts part =>
    match part.phase with
    | .done (.ok ()) => ended (.ok counts)
    | .done (.error error) => ended (.error error)
    | _ => finishing counts part
  | ended result => ended result

def start (now : Instant) (source : LineSource) (writeTimeout : Option Duration) : Delivery :=
  settle now (sending (.start now source writeTimeout))

def request : Delivery → Option Request
  | sending part => part.request
  | finishing _ part => part.request
  | ended _ => none

/-- The deadline of the operation that a delivery is at. -/
def deadline : Delivery → Option Deadline
  | sending part => part.deadline
  | finishing _ part => part.deadline
  | ended _ => none

/-- Lets the part that a delivery is at take an answer. -/
def take (now : Instant) (answer : Answer) : Delivery → Delivery
  | sending part => sending (part.resume now answer)
  | finishing counts part => finishing counts (part.resume now answer)
  | ended result => ended result

def resume (now : Instant) (answer : Answer) (delivery : Delivery) : Delivery :=
  settle now (take now answer delivery)

/-- How far a delivery is from its end when nothing more can be fetched and all that goes out is
accepted. Finishing takes two operations. -/
def rank : Delivery → Nat
  | sending part => part.rank + 3
  | finishing _ part => part.rank
  | ended _ => 0

/-- Going over to the next part leads no further from the end. -/
theorem rank_settle_le (now : Instant) (delivery : Delivery) :
    (settle now delivery).rank ≤ delivery.rank := by
  fun_cases settle now delivery <;> simp_all [rank, Finishing.start, Finishing.rank]

def machine : Machine Delivery where
  request := request
  deadline := deadline
  resume := resume
  rank := rank
  rank_fallback := by
    intro now delivery asked asks
    refine Nat.lt_of_le_of_lt (rank_settle_le now _) ?_
    cases delivery with
    | sending part =>
      exact Nat.add_lt_add_right (Sending.machine.rank_fallback now part asked asks) 3
    | finishing counts part => exact Finishing.machine.rank_fallback now part asked asks
    | ended result => simp [request] at asks
  rank_late := by
    intro now delivery asked limit asks
    refine Nat.lt_of_le_of_lt (rank_settle_le now _) ?_
    cases delivery with
    | sending part =>
      exact Nat.add_lt_add_right (Sending.machine.rank_late now part asked limit asks) 3
    | finishing counts part => exact Finishing.machine.rank_late now part asked limit asks
    | ended result => simp [request] at asks

/-- The result of a delivery, once it has ended. -/
def result? : Delivery → Option (Except Error SendCounts)
  | ended result => some result
  | _ => none

/-- Whether all that a delivery has to send has been sent. -/
def isSent : Delivery → Bool
  | sending _ => false
  | _ => true

end Delivery

end LineEcho
