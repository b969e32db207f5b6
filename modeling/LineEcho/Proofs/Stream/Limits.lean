import LineEcho.Proofs.Stream.Transcript

/-!
# Runs under other limits

A deadline does nothing until it is missed.  As long as none is missed, a party whose deadlines come
later, or which has none, gets the same answers at the same moments, so two such runs go in lock
step.  When a deadline is missed, the run with the later deadlines has come the same way up to that
request, and what was logged on the way is a beginning of its log.
-/

namespace LineEcho

/-- The later deadline comes no earlier than the sooner one, or it is absent. -/
def Deadline.NoSooner (later sooner : Option Deadline) : Prop :=
  ∀ bound, later = some bound → ∃ before, sooner = some before ∧ before.instant ≤ bound.instant

namespace Script

variable {α : Type} {later sooner : Option Deadline}

theorem missed?_eq_none_of_noSooner (noSooner : Deadline.NoSooner later sooner) {wake : Instant}
    (inTime : missed? sooner wake = none) : missed? later wake = none := by
  cases later with
  | none => rfl
  | some bound =>
    obtain ⟨before, rfl, le⟩ := noSooner bound rfl
    simp only [missed?, Option.filter_some, decide_eq_true_eq, ite_eq_right_iff, reduceCtorEq,
      imp_false, Nat.not_lt] at inTime ⊢
    exact Nat.le_trans inTime le

theorem awaitSteps_reached_of_noSooner (noSooner : Deadline.NoSooner later sooner) {now : Instant}
    {steps : List (Step α)} {due : Option Instant} {moment : Instant} {left : List (Step α)}
    (reached : awaitSteps sooner now steps due = .reached moment left) :
    awaitSteps later now steps due = .reached moment left := by
  fun_induction awaitSteps sooner now steps due with
  | case1 now millis rest due passed ih =>
    rw [awaitSteps, if_pos passed]
    exact ih reached
  | case2 now millis rest due running bound missed => contradiction
  | case3 now millis rest due running inTime ih =>
    rw [awaitSteps, if_neg running, missed?_eq_none_of_noSooner noSooner inTime]
    exact ih reached
  | case4 now steps due noWait =>
    rw [awaitSteps]
    · exact reached
    · exact noWait

theorem limit_of_awaitSteps {deadline : Option Deadline} {now : Instant}
    {steps : List (Step α)} {due : Option Instant} {moment : Instant} {limit : Duration}
    {left : Script α} (expired : awaitSteps deadline now steps due = .expired moment limit left) :
    ∃ bound, deadline = some bound ∧ bound.limit = limit := by
  fun_induction awaitSteps deadline now steps due with
  | case1 now millis rest due passed ih => exact ih expired
  | case2 now millis rest due running bound missed =>
    cases expired
    exact ⟨bound, (Option.filter_eq_some_iff.1 missed).1, rfl⟩
  | case3 now millis rest due running inTime ih => exact ih expired
  | case4 now steps due noWait => contradiction

end Script

namespace Streams

variable {later sooner : Option Deadline}

theorem awaitOn_of_noSooner {α : Type} {script : Script α}
    {answer : List (Step α) → Answer × List (Step α)} {update : Script α → Option Answer → Streams}
    {now : Instant} (noSooner : Deadline.NoSooner later sooner)
    (inTime : (awaitOn script answer update sooner now).late = false) :
    awaitOn script answer update later now = awaitOn script answer update sooner now := by
  cases arrival : script.await sooner now with
  | expired moment limit left => simp [awaitOn, arrival] at inTime
  | reached moment left =>
    have same : script.await later now = .reached moment left :=
      Script.awaitSteps_reached_of_noSooner noSooner arrival
    simp only [awaitOn, arrival, same]

/-- An answer that was in time comes as well, and no later, under a deadline that is no sooner. -/
theorem await_of_noSooner (noSooner : Deadline.NoSooner later sooner) (now : Instant)
    (streams : Streams) (asked : Request) (inTime : (streams.await sooner now asked).late = false) :
    streams.await later now asked = streams.await sooner now asked := by
  cases asked with
  | fetch room => exact awaitOn_of_noSooner noSooner inTime
  | read room => exact awaitOn_of_noSooner noSooner inTime
  | write octets => exact awaitOn_of_noSooner noSooner inTime
  | flush => exact awaitOn_of_noSooner noSooner inTime
  | shutdown => exact awaitOn_of_noSooner noSooner inTime

theorem awaitOn_late {α : Type} {script : Script α}
    {answer : List (Step α) → Answer × List (Step α)} {update : Script α → Option Answer → Streams}
    {deadline : Option Deadline} {now : Instant}
    (late : (awaitOn script answer update deadline now).late = true) :
    ∃ bound, deadline = some bound ∧
      (awaitOn script answer update deadline now).answer = .failed (.noProgress bound.limit) := by
  cases arrival : script.await deadline now with
  | reached moment left => simp [awaitOn, arrival] at late
  | expired moment limit left =>
    obtain ⟨bound, given, rfl⟩ := Script.limit_of_awaitSteps arrival
    exact ⟨bound, given, by simp only [awaitOn, arrival]⟩

/-- Only a deadline makes an answer late, and then it is the fault of its limit. -/
theorem await_late {deadline : Option Deadline} {now : Instant} {streams : Streams}
    {asked : Request} (late : (streams.await deadline now asked).late = true) :
    ∃ bound, deadline = some bound ∧
      (streams.await deadline now asked).answer = .failed (.noProgress bound.limit) := by
  cases asked with
  | fetch room => exact awaitOn_late late
  | read room => exact awaitOn_late late
  | write octets => exact awaitOn_late late
  | flush => exact awaitOn_late late
  | shutdown => exact awaitOn_late late

theorem late_await_of_unlimited (now : Instant) (streams : Streams) (asked : Request) :
    (streams.await none now asked).late = false := by
  rw [← Bool.not_eq_true]
  intro late
  obtain ⟨bound, given, -⟩ := await_late late
  contradiction

end Streams

namespace Machine

variable {σ : Type} {machine : Machine σ} {eased : σ → σ → Prop}

/-- Without a limit, a shutdown is logged whatever comes of it. -/
theorem log_advance_shutdown {progress : Progress σ}
    (unlimited : machine.deadline progress.state = none) :
    (machine.advance progress .shutdown).streams.log.toList =
      progress.streams.log.toList ++ [.shutdown] := by
  have inTime : (machine.poll progress .shutdown).late = false := by
    simp only [poll, unlimited, Streams.late_await_of_unlimited]
  rw [log_advance, Poll.entry_shutdown rfl inTime]
  rfl

/-- One party is another one under limits that are no shorter: it asks the same and takes an answer
in the same way, and its deadlines come no sooner. -/
structure Eases (machine : Machine σ) (eased : σ → σ → Prop) : Prop where
  request_eq : ∀ {state free}, eased state free → machine.request free = machine.request state
  resume : ∀ {state free}, eased state free → ∀ now answer,
    eased (machine.resume now answer state) (machine.resume now answer free)
  noSooner : ∀ {state free}, eased state free →
    Deadline.NoSooner (machine.deadline free) (machine.deadline state)

/-- Two stages of runs that differ in the limits of the party only. -/
structure InStep (eased : σ → σ → Prop) (progress free : Progress σ) : Prop where
  now_eq : free.now = progress.now
  state : eased progress.state free.state
  streams_eq : free.streams = progress.streams
  late_eq : free.late = progress.late

variable {progress free : Progress σ}

theorem late_finish_of_late (late : progress.late = true) :
    (machine.finish progress).late = true := by
  refine machine.finish_invariant (fun later => later.late = true) ?_ progress late
  intro later asked _ late
  simp [advance, late]

theorem InStep.advance (eases : machine.Eases eased) (inStep : InStep eased progress free)
    {asked : Request}
    (inTime :
      (progress.streams.await (machine.deadline progress.state) progress.now asked).late = false) :
    InStep eased (machine.advance progress asked) (machine.advance free asked) := by
  have same := Streams.await_of_noSooner (eases.noSooner inStep.state) progress.now
    progress.streams asked inTime
  rw [← inStep.now_eq, ← inStep.streams_eq] at same
  simp only [Machine.advance]
  rw [same, inStep.now_eq, inStep.streams_eq, inStep.late_eq]
  exact ⟨rfl, eases.resume inStep.state _ _, rfl, rfl⟩

/-- As long as no deadline is missed, the runs go in lock step. -/
theorem InStep.finish (eases : machine.Eases eased) (inStep : InStep eased progress free)
    (inTime : (machine.finish progress).late = false) :
    InStep eased (machine.finish progress) (machine.finish free) := by
  fun_induction Machine.finish machine progress generalizing free with
  | case1 progress asks =>
    rw [machine.finish_of_request_eq_none ((eases.request_eq inStep.state).trans asks)]
    exact inStep
  | case2 progress asked asks ih =>
    rw [machine.finish_of_request_eq_some ((eases.request_eq inStep.state).trans asks)]
    refine ih (inStep.advance eases ?_) inTime
    rw [← Bool.not_eq_true]
    intro late
    have missed : (machine.advance progress asked).late = true := by
      simp [Machine.advance, late]
    rw [late_finish_of_late missed] at inTime
    contradiction

variable (machine) in
/-- The request at which a run misses a deadline for the first time, and where a run under easier
limits stands when it comes to that request. -/
structure FirstMiss (eased : σ → σ → Prop) (progress free miss : Progress σ) (asked : Request)
    (bound : Deadline) : Prop where
  asks : machine.request miss.state = some asked
  bound_eq : machine.deadline miss.state = some bound
  answer_eq : (machine.poll miss asked).answer = .failed (.noProgress bound.limit)
  late : (machine.poll miss asked).late = true
  finish_eq : machine.finish progress = machine.finish (machine.advance miss asked)
  reached : ∃ reached, InStep eased miss reached ∧ machine.finish free = machine.finish reached

/-- A run in which a deadline is missed misses one for the first time, in lock step with a run under
easier limits until then. -/
theorem InStep.exists_firstMiss (eases : machine.Eases eased) (inStep : InStep eased progress free)
    (inTime : progress.late = false) (late : (machine.finish progress).late = true) :
    ∃ miss asked bound, FirstMiss machine eased progress free miss asked bound := by
  fun_induction Machine.finish machine progress generalizing free with
  | case1 progress asks => simp [inTime] at late
  | case2 progress asked asks ih =>
    have next := machine.finish_of_request_eq_some asks
    have nextFree := machine.finish_of_request_eq_some
      ((eases.request_eq inStep.state).trans asks)
    by_cases missed :
      (progress.streams.await (machine.deadline progress.state) progress.now asked).late = true
    · obtain ⟨bound, given, answer⟩ := Streams.await_late missed
      exact ⟨progress, asked, bound, asks, given, answer, missed, next, free, inStep, rfl⟩
    · rw [Bool.not_eq_true] at missed
      have inTimeStill : (machine.advance progress asked).late = false := by
        simp [Machine.advance, inTime, missed]
      obtain ⟨miss, request, bound, first⟩ := ih (inStep.advance eases missed) inTimeStill late
      refine ⟨miss, request, bound, ?_⟩
      exact
        { first with
          finish_eq := next.trans first.finish_eq
          reached := nextFree ▸ first.reached }

theorem FirstMiss.state_eq {miss : Progress σ} {asked : Request} {bound : Deadline}
    (first : FirstMiss machine eased progress free miss asked bound) :
    ∃ later, (machine.advance miss asked).state =
      machine.resume later (.failed (.noProgress bound.limit)) miss.state := by
  have answer := first.answer_eq
  simp only [poll] at answer
  exact ⟨_, by rw [advance, answer]⟩

/-- Nothing is logged of a missed request, and what was logged before it is a beginning of what is
logged under easier limits. -/
theorem FirstMiss.log_prefix {miss : Progress σ} {asked : Request} {bound : Deadline}
    (first : FirstMiss machine eased progress free miss asked bound) :
    (machine.advance miss asked).streams.log.toList <+:
      (machine.finish free).streams.log.toList := by
  obtain ⟨reached, inStep, ends⟩ := first.reached
  have nothing : (machine.poll miss asked).entry = none := by simp [Poll.entry, first.late]
  rw [log_advance, nothing, ends, log_finish, inStep.streams_eq]
  simp

end Machine

end LineEcho
