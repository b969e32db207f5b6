import LineEcho.Fault

/-!
# Scripts on a virtual clock

A script lists what the successive polls of one operation find: answers, and waits before them. A
wait is counted from the moment at which it is reached first, and one that has started keeps running
whether or not anybody goes on asking. `Script.await` sits the waits out, moving the clock from one
of them to the next, unless a deadline comes before, and `Script.lapse` is what is left of a script
for which somebody has waited in vain.
-/

namespace LineEcho

/-- A moment on the virtual clock, in milliseconds from its start. -/
abbrev Instant := Nat

/-- One step of a script. -/
inductive Step (α : Type) where
  | wait (millis : Nat)
  | answer (value : α)
  deriving DecidableEq, Repr

/-- The steps to come, and the end of the wait at their head once it has been reached. -/
structure Script (α : Type) where
  steps : List (Step α)
  due : Option Instant
  deriving DecidableEq, Repr

instance {α : Type} : Inhabited (Script α) :=
  ⟨[], none⟩

/-- A limit on how long an operation may take, and the moment at which it began. -/
structure Deadline where
  limit : Duration
  start : Instant
  deriving DecidableEq, Repr

/-- The first moment at which the operation is too late. -/
def Deadline.instant (deadline : Deadline) : Instant :=
  deadline.start + deadline.limit.ticks

namespace Script

variable {α : Type}

/-- A script none of whose steps has been reached. -/
def ofSteps (steps : List (Step α)) : Script α :=
  ⟨steps, none⟩

/-- The end of a wait: the one set when it was reached, or one counted from now. -/
def wakeAt (now : Instant) (due : Option Instant) (millis : Nat) : Instant :=
  due.getD (now + millis)

/-- The end of a period of waiting: an answer can be given, or the deadline has passed. -/
inductive Arrival (α : Type) where
  | reached (now : Instant) (steps : List (Step α))
  | expired (now : Instant) (limit : Duration) (script : Script α)

def missed? (deadline : Option Deadline) (wake : Instant) : Option Deadline :=
  deadline.filter (fun bound => bound.instant < wake)

/-- Sits out the waits at the head of the steps. An answer that comes at the very moment of the
deadline is still in time. -/
def awaitSteps (deadline : Option Deadline) :
    Instant → List (Step α) → Option Instant → Arrival α
  | now, .wait millis :: rest, due =>
    if wakeAt now due millis ≤ now then awaitSteps deadline now rest none
    else
      match missed? deadline (wakeAt now due millis) with
      | some bound =>
        .expired (max now bound.instant) bound.limit
          ⟨.wait millis :: rest, some (wakeAt now due millis)⟩
      | none => awaitSteps deadline (wakeAt now due millis) rest none
  | now, steps, _ => .reached now steps

/-- Sits out the waits at the head of a script. -/
def await (deadline : Option Deadline) (now : Instant) (script : Script α) : Arrival α :=
  awaitSteps deadline now script.steps script.due

/-- The script as it is left by somebody who began to wait at one moment and gave up at another. -/
def lapse (start stop : Instant) (script : Script α) : Script α :=
  match script.await (some ⟨⟨0⟩, stop⟩) start with
  | .reached _ steps => ofSteps steps
  | .expired _ _ left => left

/-- The number of answers and waits in some steps, where each answer counts for itself and for what
it holds. -/
def weight (cost : α → Nat) : List (Step α) → Nat
  | [] => 0
  | .wait _ :: rest => weight cost rest + 1
  | .answer value :: rest => weight cost rest + cost value + 1

/-- What is left to answer from after some waiting. -/
def Arrival.steps : Arrival α → List (Step α)
  | .reached _ steps => steps
  | .expired _ _ script => script.steps

theorem weight_awaitSteps_le (cost : α → Nat) (deadline : Option Deadline) (now : Instant)
    (steps : List (Step α)) (due : Option Instant) :
    weight cost (awaitSteps deadline now steps due).steps ≤ weight cost steps := by
  fun_induction awaitSteps deadline now steps due with
  | case1 now millis rest due passed ih =>
    simp only [weight]
    omega
  | case2 now millis rest due passed bound missed => simp [Arrival.steps]
  | case3 now millis rest due passed missed ih =>
    simp only [weight]
    omega
  | case4 now steps due noWait => simp [Arrival.steps]

end Script

end LineEcho
