import LineEcho.Stream.Streams

/-!
# Parties as machines

A machine says what it asks of its streams next and what it becomes when it is answered, and knows
nothing of who answers. `Machine.run` answers it from scripts on the virtual clock. A machine can go
on only so long without using up a script, which its rank bounds; hence every run ends.
-/

namespace LineEcho

/-- A party: its next request with the deadline of the operation that the request belongs to, and
what it becomes on an answer. Its rank falls whenever it gets the answer of a script that has run
out, and whenever it misses a deadline. -/
structure Machine (σ : Type) where
  request : σ → Option Request
  deadline : σ → Option Deadline
  resume : Instant → Answer → σ → σ
  rank : σ → Nat
  rank_fallback : ∀ (now : Instant) (state : σ) (asked : Request), request state = some asked →
    rank (resume now asked.fallback state) < rank state
  rank_late : ∀ (now : Instant) (state : σ) (asked : Request) (limit : Duration),
    request state = some asked →
    rank (resume now (.failed (.noProgress limit)) state) < rank state

/-- Where a run stands: the moment, the party, its streams, and whether a deadline has been missed
on the way. -/
structure Progress (σ : Type) where
  now : Instant
  state : σ
  streams : Streams
  late : Bool

namespace Machine

variable {σ : Type} (machine : Machine σ)

def advance (progress : Progress σ) (asked : Request) : Progress σ :=
  let reply := progress.streams.await (machine.deadline progress.state) progress.now asked
  ⟨reply.now, machine.resume reply.now reply.answer progress.state, reply.streams,
    progress.late || reply.late⟩

/-- Answering a request uses up a script or lowers the machine's rank. -/
theorem advance_decreases (progress : Progress σ) (asked : Request)
    (asks : machine.request progress.state = some asked) :
    Prod.Lex (· < ·) (· < ·)
      ((machine.advance progress asked).streams.weight,
        machine.rank (machine.advance progress asked).state)
      (progress.streams.weight, machine.rank progress.state) := by
  rcases Streams.await_progress (machine.deadline progress.state) progress.now progress.streams
    asked with fewer | ⟨same, given | ⟨limit, given⟩⟩
  · exact .left _ _ fewer
  · simp only [advance, same, given]
    exact .right _ (machine.rank_fallback _ _ _ asks)
  · simp only [advance, same, given]
    exact .right _ (machine.rank_late _ _ _ limit asks)

def finish (progress : Progress σ) : Progress σ :=
  match _asks : machine.request progress.state with
  | none => progress
  | some asked => finish (machine.advance progress asked)
termination_by (progress.streams.weight, machine.rank progress.state)
decreasing_by exact machine.advance_decreases progress asked ‹_›

/-- Runs a party on some streams from a moment on. -/
def run (now : Instant) (state : σ) (streams : Streams) : Progress σ :=
  machine.finish ⟨now, state, streams, false⟩

theorem finish_of_request_eq_none {progress : Progress σ}
    (asks : machine.request progress.state = none) : machine.finish progress = progress := by
  rw [finish]
  split
  · rfl
  · next asked asksMore => rw [asks] at asksMore; contradiction

theorem finish_of_request_eq_some {progress : Progress σ} {asked : Request}
    (asks : machine.request progress.state = some asked) :
    machine.finish progress = machine.finish (machine.advance progress asked) := by
  conv => lhs; rw [finish]
  split
  · next asksNothing => rw [asks] at asksNothing; contradiction
  · next other asksOther => rw [asks] at asksOther; cases asksOther; rfl

/-- What answering a request keeps, a run keeps. -/
theorem finish_invariant (holds : Progress σ → Prop)
    (keeps : ∀ progress asked, machine.request progress.state = some asked → holds progress →
      holds (machine.advance progress asked))
    (progress : Progress σ) (start : holds progress) : holds (machine.finish progress) := by
  fun_induction finish machine progress with
  | case1 progress asks => exact start
  | case2 progress asked asks ih => exact ih (keeps progress asked asks start)

/-- A run ends when the party asks for nothing more. -/
@[simp]
theorem request_finish (progress : Progress σ) :
    machine.request (machine.finish progress).state = none := by
  fun_induction finish machine progress with
  | case1 progress asks => exact asks
  | case2 progress asked asks ih => exact ih

end Machine

end LineEcho
