import LineEcho.Proofs.Stream.Transcript

/-!
# Waiting without a limit

Who has no deadline sits out all the waits before the next answer of a script.  So what comes of a
request then depends on the answers in the script alone: `Script.ready` is the script from the next
one of them on.
-/

namespace LineEcho

namespace Script

variable {α : Type}

/-- The steps of a script from its next answer on. -/
def ready : List (Step α) → List (Step α)
  | .wait _ :: rest => ready rest
  | steps => steps

theorem awaitSteps_none (now : Instant) (steps : List (Step α)) (due : Option Instant) :
    ∃ later, awaitSteps none now steps due = .reached later (ready steps) := by
  fun_induction awaitSteps none now steps due with
  | case1 now millis rest due passed ih => exact ih
  | case2 now millis rest due passed bound missed => simp [missed?] at missed
  | case3 now millis rest due passed missed ih => exact ih
  | case4 now steps due noWait =>
    refine ⟨now, ?_⟩
    unfold ready
    split
    · exact absurd rfl (noWait _ _)
    · rfl

theorem ready_suffix (steps : List (Step α)) : ready steps <:+ steps := by
  fun_induction ready steps with
  | case1 millis rest ih => exact ih.trans (List.suffix_cons _ rest)
  | case2 steps noWait => exact List.suffix_refl steps

/-- Waiting uses up waits and leaves the answers. -/
theorem ready_awaitSteps (deadline : Option Deadline) (now : Instant) (steps : List (Step α))
    (due : Option Instant) : ready (awaitSteps deadline now steps due).steps = ready steps := by
  fun_induction awaitSteps deadline now steps due with
  | case1 now millis rest due passed ih => exact ih
  | case2 now millis rest due passed bound missed => rfl
  | case3 now millis rest due passed missed ih => exact ih
  | case4 now steps due noWait => rfl

theorem ready_lapse (start stop : Instant) (script : Script α) :
    ready (script.lapse start stop).steps = ready script.steps := by
  have waited := ready_awaitSteps (some ⟨⟨0⟩, stop⟩) start script.steps script.due
  simp only [lapse, await]
  split <;> simp_all only [Arrival.steps, ofSteps]

end Script

namespace Streams

/-- Without a limit, a request gets the next answer of its script. -/
theorem awaitOn_none {α : Type} (script : Script α)
    (answer : List (Step α) → Answer × List (Step α)) (update : Script α → Option Answer → Streams)
    (now : Instant) :
    let given := answer (Script.ready script.steps)
    ∃ later, awaitOn script answer update none now =
      ⟨given.1, false, later, update (.ofSteps given.2) (some given.1)⟩ := by
  obtain ⟨later, arrival⟩ := Script.awaitSteps_none now script.steps script.due
  exact ⟨later, by simp only [awaitOn, Script.await, arrival]⟩

theorem await_read (now : Instant) (streams : Streams) (room : Nat) :
    let given := Incoming.answer room (Script.ready streams.incoming.steps)
    ∃ later log, streams.await none now (.read room) =
      ⟨given.1, false, later, { streams with incoming := .ofSteps given.2, log := log }⟩ := by
  obtain ⟨later, reply⟩ := awaitOn_none streams.incoming (Incoming.answer room)
    (fun script given =>
      { streams with incoming := script, log := logWith streams.log Incoming.logged given }) now
  exact ⟨later, _, reply⟩

theorem await_write (now : Instant) (streams : Streams) (octets : Bytes) :
    let given := Outgoing.answer streams.retries octets (Script.ready streams.outgoing.steps)
    ∃ later log, streams.await none now (.write octets) =
      ⟨given.1, false, later, { streams with outgoing := .ofSteps given.2, log := log }⟩ := by
  obtain ⟨later, reply⟩ := awaitOn_none streams.outgoing (Outgoing.answer streams.retries octets)
    (fun script given =>
      { streams with
        outgoing := script, log := logWith streams.log (Outgoing.logged octets) given }) now
  exact ⟨later, _, reply⟩

/-- A shutdown concerns nothing but the script of the shutdowns. -/
theorem await_shutdown (now : Instant) (streams : Streams) :
    ∃ given later shutdowns log, streams.await none now .shutdown =
      ⟨given, false, later, { streams with shutdowns := shutdowns, log := log }⟩ := by
  obtain ⟨later, reply⟩ := awaitOn_none streams.shutdowns Signal.answer
    (fun script given =>
      { streams with shutdowns := script, log := logWith streams.log (fun _ => .shutdown) given })
    now
  exact ⟨_, later, _, _, reply⟩

end Streams

end LineEcho
