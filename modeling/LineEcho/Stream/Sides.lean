import LineEcho.Stream.Streams

/-!
# The two sides of a connection

What flows out on a connection and what comes in on it have scripts of their own, so a request is
answered from the scripts of its side and changes nothing of the other one. `Streams.lapse` is what
a request leaves behind that was waited for in vain: it goes on later as if it had never been
interrupted.
-/

namespace LineEcho

/-- The two sides of a connection, as the client sees them. -/
inductive Side where
  | outward
  | inward
  deriving DecidableEq, Repr

namespace Side

def all : List Side :=
  [outward, inward]

theorem mem_all (side : Side) : side ∈ all := by
  cases side <;> decide

def other : Side → Side
  | outward => inward
  | inward => outward

end Side

/-- The side that a request is about. The file flows out. -/
def Request.side : Request → Side
  | read _ => .inward
  | _ => .outward

namespace Script

variable {α : Type}

/-- The moment at which a period of waiting ends. -/
def Arrival.now : Arrival α → Instant
  | .reached now _ => now
  | .expired now _ _ => now

theorem le_now_awaitSteps (deadline : Option Deadline) (now : Instant) (steps : List (Step α))
    (due : Option Instant) : now ≤ (awaitSteps deadline now steps due).now := by
  fun_induction awaitSteps deadline now steps due with
  | case1 now millis rest due passed ih => exact ih
  | case2 now millis rest due passed bound missed => exact Nat.le_max_left _ _
  | case3 now millis rest due passed missed ih =>
    exact Nat.le_trans (Nat.le_of_not_le passed) ih
  | case4 now steps due noWait => exact Nat.le_refl _

theorem awaitSteps_of_not_wait (deadline : Option Deadline) (now : Instant)
    {steps : List (Step α)} (due : Option Instant)
    (noWait : ∀ millis rest, steps = .wait millis :: rest → False) :
    awaitSteps deadline now steps due = .reached now steps := by
  cases steps with
  | nil => rfl
  | cons first rest =>
    cases first with
    | wait millis => exact absurd rfl (noWait millis rest)
    | answer value => rfl

/-- A wait that has started ends when it would have ended, whoever asks and from when on. -/
theorem awaitSteps_of_due (deadline : Option Deadline) {now wake : Instant} (millis : Nat)
    (rest : List (Step α)) (later : now < wake) :
    awaitSteps deadline now (.wait millis :: rest) (some wake) =
      match missed? deadline wake with
      | some bound => .expired (max now bound.instant) bound.limit ⟨.wait millis :: rest, some wake⟩
      | none => awaitSteps deadline wake rest none := by
  rw [awaitSteps]
  exact if_neg (Nat.not_le.2 later)

section Lapse

variable {start stop : Instant} {millis : Nat} {rest : List (Step α)} {due : Option Instant}

theorem instant_of_zero (stop : Instant) : Deadline.instant ⟨⟨0⟩, stop⟩ = stop := by
  simp [Deadline.instant, Duration.ticks]

theorem lapse_of_passed (passed : wakeAt start due millis ≤ start) :
    lapse start stop ⟨.wait millis :: rest, due⟩ = lapse start stop ⟨rest, none⟩ := by
  simp only [lapse, await, awaitSteps, if_pos passed]

theorem lapse_of_over (started : ¬ wakeAt start due millis ≤ start)
    (elapsed : wakeAt start due millis ≤ stop) :
    lapse start stop ⟨.wait millis :: rest, due⟩ =
      lapse (wakeAt start due millis) stop ⟨rest, none⟩ := by
  have inTime : missed? (some ⟨⟨0⟩, stop⟩) (wakeAt start due millis) = none := by
    simp [missed?, instant_of_zero, elapsed]
  simp only [lapse, await, awaitSteps, if_neg started, inTime]

theorem lapse_of_running (started : ¬ wakeAt start due millis ≤ start)
    (running : stop < wakeAt start due millis) :
    lapse start stop ⟨.wait millis :: rest, due⟩ =
      ⟨.wait millis :: rest, some (wakeAt start due millis)⟩ := by
  have expired : missed? (some ⟨⟨0⟩, stop⟩) (wakeAt start due millis) = some ⟨⟨0⟩, stop⟩ := by
    simp [missed?, instant_of_zero, running]
  simp only [lapse, await, awaitSteps, if_neg started, expired]

theorem lapse_of_not_wait {steps : List (Step α)}
    (noWait : ∀ millis rest, steps = .wait millis :: rest → False) :
    lapse start stop ⟨steps, due⟩ = ofSteps steps := by
  simp only [lapse, await, awaitSteps_of_not_wait _ _ _ noWait]

/-- Who gave up waiting before anything came is served at the same moment and in the same way
afterwards. -/
theorem await_lapse (deadline : Option Deadline) (script : Script α) (forward : start ≤ stop)
    (early : stop ≤ (script.await deadline start).now) :
    (script.lapse start stop).await deadline stop = script.await deadline start := by
  obtain ⟨steps, due⟩ := script
  simp only [await] at early ⊢
  fun_induction awaitSteps deadline start steps due with
  | case1 start millis rest due passed ih =>
    rw [lapse_of_passed passed]
    exact ih forward early
  | case2 start millis rest due passed bound missed =>
    -- the deadline ends the wait, and the waiting was given up before it
    have inTime : bound.instant < wakeAt start due millis := by
      simpa using (Option.filter_eq_some_iff.1 missed).2
    have later : max start bound.instant < wakeAt start due millis :=
      Nat.max_lt.2 ⟨Nat.not_le.1 passed, inTime⟩
    have running : stop < wakeAt start due millis := Nat.lt_of_le_of_lt early later
    have same : max stop bound.instant = max start bound.instant := by
      refine Nat.le_antisymm (Nat.max_le.2 ⟨early, Nat.le_max_right _ _⟩) ?_
      exact Nat.max_le.2 ⟨Nat.le_trans forward (Nat.le_max_left _ _), Nat.le_max_right _ _⟩
    rw [lapse_of_running passed running, awaitSteps_of_due deadline millis rest running, missed]
    exact congrArg (Arrival.expired · bound.limit _) same
  | case3 start millis rest due passed missed ih =>
    by_cases running : stop < wakeAt start due millis
    · rw [lapse_of_running passed running, awaitSteps_of_due deadline millis rest running, missed]
    · have elapsed := Nat.not_lt.1 running
      rw [lapse_of_over passed elapsed]
      exact ih elapsed early
  | case4 start steps due noWait =>
    rw [lapse_of_not_wait noWait, ofSteps, awaitSteps_of_not_wait deadline stop none noWait]
    exact congrArg (Arrival.reached · steps) (Nat.le_antisymm early forward)

theorem weight_lapse_le (cost : α → Nat) (start stop : Instant) (script : Script α) :
    weight cost (script.lapse start stop).steps ≤ weight cost script.steps := by
  have waited := weight_awaitSteps_le cost (some ⟨⟨0⟩, stop⟩) start script.steps script.due
  simp only [lapse, await]
  split <;> simp_all only [Arrival.steps, ofSteps]

end Lapse

end Script

namespace Streams

/-- The scripts of one side, with nothing on the other and an empty log. -/
def only (streams : Streams) : Side → Streams
  | .outward => { streams with incoming := default, log := #[] }
  | .inward => { (default : Streams) with incoming := streams.incoming }

/-- The streams once a request has waited in vain from one moment to another. -/
def lapse (start stop : Instant) (streams : Streams) : Request → Streams
  | .fetch _ => { streams with source := streams.source.lapse start stop }
  | .read _ => { streams with incoming := streams.incoming.lapse start stop }
  | .write _ => { streams with outgoing := streams.outgoing.lapse start stop }
  | .flush => { streams with flushes := streams.flushes.lapse start stop }
  | .shutdown => { streams with shutdowns := streams.shutdowns.lapse start stop }

theorem le_now_awaitOn {α : Type} (script : Script α)
    (answer : List (Step α) → Answer × List (Step α)) (update : Script α → Option Answer → Streams)
    (deadline : Option Deadline) (now : Instant) :
    now ≤ (awaitOn script answer update deadline now).now := by
  have forward := Script.le_now_awaitSteps deadline now script.steps script.due
  simp only [awaitOn, Script.await]
  split <;> simp_all only [Script.Arrival.now]

/-- No answer comes before it is asked for. -/
theorem le_now_await (deadline : Option Deadline) (now : Instant) (streams : Streams)
    (asked : Request) : now ≤ (streams.await deadline now asked).now := by
  cases asked <;> exact le_now_awaitOn _ _ _ _ _

/-- The replies to one request that are the same for the side that it is about. -/
structure SameReply (side : Side) (first second : Reply) : Prop where
  answer_eq : first.answer = second.answer
  late_eq : first.late = second.late
  now_eq : first.now = second.now
  streams_eq : first.streams.only side = second.streams.only side

theorem awaitOn_congr {α : Type} (script : Script α)
    (answer : List (Step α) → Answer × List (Step α))
    {first second : Script α → Option Answer → Streams} (deadline : Option Deadline)
    (now : Instant) (side : Side)
    (same : ∀ left given, (first left given).only side = (second left given).only side) :
    SameReply side (awaitOn script answer first deadline now)
      (awaitOn script answer second deadline now) := by
  simp only [awaitOn]
  split
  · exact ⟨rfl, rfl, rfl, same _ _⟩
  · exact ⟨rfl, rfl, rfl, same _ _⟩

/-- A request is answered from the scripts of its side. -/
theorem await_only (deadline : Option Deadline) (now : Instant) (streams : Streams)
    (asked : Request) :
    SameReply asked.side (streams.await deadline now asked)
      ((streams.only asked.side).await deadline now asked) := by
  cases asked <;> simp only [await, Request.side, only] <;>
    exact awaitOn_congr _ _ _ _ _ (fun _ _ => rfl)

/-- Streams that agree on the side of a request give it the same answer. -/
theorem await_congr {first second : Streams} {asked : Request}
    (same : first.only asked.side = second.only asked.side) (deadline : Option Deadline)
    (now : Instant) :
    SameReply asked.side (first.await deadline now asked) (second.await deadline now asked) := by
  have begun := await_only deadline now first asked
  have ended := await_only deadline now second asked
  rw [same] at begun
  exact ⟨begun.answer_eq.trans ended.answer_eq.symm, begun.late_eq.trans ended.late_eq.symm,
    begun.now_eq.trans ended.now_eq.symm, begun.streams_eq.trans ended.streams_eq.symm⟩

/-- An answer leaves the other side as it was. -/
theorem only_await {side : Side} {asked : Request} (other : asked.side ≠ side)
    (deadline : Option Deadline) (now : Instant) (streams : Streams) :
    (streams.await deadline now asked).streams.only side = streams.only side := by
  cases side <;> cases asked <;> first | exact absurd rfl other | skip
  all_goals
    simp only [await, awaitOn]
    split <;> rfl

theorem only_lapse {side : Side} {asked : Request} (other : asked.side ≠ side)
    (start stop : Instant) (streams : Streams) :
    (streams.lapse start stop asked).only side = streams.only side := by
  cases side <;> cases asked <;> first | exact absurd rfl other | rfl

theorem lapse_congr {first second : Streams} {asked : Request}
    (same : first.only asked.side = second.only asked.side) (start stop : Instant) :
    (first.lapse start stop asked).only asked.side =
      (second.lapse start stop asked).only asked.side := by
  have lapse_only : ∀ streams : Streams, (streams.lapse start stop asked).only asked.side =
      ((streams.only asked.side).lapse start stop asked).only asked.side := by
    intro streams
    cases asked <;> rfl
  rw [lapse_only first, lapse_only second, same]

theorem awaitOn_lapse {α : Type} {script : Script α}
    {answer : List (Step α) → Answer × List (Step α)} {update : Script α → Option Answer → Streams}
    {deadline : Option Deadline} {start stop : Instant} (forward : start ≤ stop)
    (early : stop ≤ (awaitOn script answer update deadline start).now) :
    awaitOn (script.lapse start stop) answer update deadline stop =
      awaitOn script answer update deadline start := by
  have early : stop ≤ (script.await deadline start).now := by
    simp only [awaitOn] at early
    split at early <;> simp_all only [Script.Arrival.now]
  simp only [awaitOn, Script.await_lapse deadline script forward early]

/-- Waiting in vain for a request changes nothing of its answer. -/
theorem await_lapse {deadline : Option Deadline} {start stop : Instant} {streams : Streams}
    {asked : Request} (forward : start ≤ stop)
    (early : stop ≤ (streams.await deadline start asked).now) :
    (streams.lapse start stop asked).await deadline stop asked =
      streams.await deadline start asked := by
  cases asked <;> exact awaitOn_lapse forward early

theorem weight_lapse_le (start stop : Instant) (streams : Streams) (asked : Request) :
    (streams.lapse start stop asked).weight ≤ streams.weight := by
  cases asked <;> simp only [lapse, weight, Nat.add_le_add_iff_left, Nat.add_le_add_iff_right] <;>
    exact Script.weight_lapse_le _ start stop _

end Streams

end LineEcho
