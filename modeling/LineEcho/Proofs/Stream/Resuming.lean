import LineEcho.Proofs.Stream.Limits
import LineEcho.Stream.Sides

/-!
# Waiting on after a missed deadline

A deadline that is missed ends the waiting at its own moment, before the answer would have come.
The wait goes on all the same: whoever asks again, without a limit, gets the answer that would have
come, at the moment at which it would have come.
-/

namespace LineEcho

/-- A moment that is not too late for a deadline, if there is one. -/
def Deadline.Allows (deadline : Option Deadline) (now : Instant) : Prop :=
  ∀ bound, deadline = some bound → now ≤ bound.instant

namespace Script

variable {α : Type} {deadline : Option Deadline}

/-- Waiting that begins in time ends in time with an answer, or at the moment of the deadline, which
is before the one at which the answer comes.  Waiting on from there comes to that answer. -/
theorem awaitSteps_of_allows {now : Instant} {steps : List (Step α)} {due : Option Instant}
    (inTime : Deadline.Allows deadline now) :
    match awaitSteps deadline now steps due with
    | .reached later _ => Deadline.Allows deadline later
    | .expired later limit left =>
      ∃ bound, deadline = some bound ∧ bound.limit = limit ∧ later = bound.instant ∧
        later < (awaitSteps none now steps due).now ∧
        left.await none later = awaitSteps none now steps due := by
  fun_induction awaitSteps deadline now steps due with
  | case1 now millis rest due passed ih =>
    have onward : awaitSteps none now (.wait millis :: rest) due =
        awaitSteps none now rest none := by
      rw [awaitSteps, if_pos passed]
    rw [onward]
    exact ih inTime
  | case2 now millis rest due running bound missed =>
    obtain ⟨given, early⟩ := Option.filter_eq_some_iff.1 missed
    have later_eq : max now bound.instant = bound.instant := Nat.max_eq_right (inTime bound given)
    have before : bound.instant < wakeAt now due millis := by simpa using early
    have onward : awaitSteps none now (.wait millis :: rest) due =
        awaitSteps none (wakeAt now due millis) rest none := by
      rw [awaitSteps, if_neg running]
      rfl
    refine ⟨bound, given, rfl, later_eq, ?_, ?_⟩
    · rw [later_eq, onward]
      exact Nat.lt_of_lt_of_le before (le_now_awaitSteps _ _ _ _)
    · rw [later_eq, onward, await, awaitSteps_of_due none millis rest before]
      rfl
  | case3 now millis rest due running missed ih =>
    have onward : awaitSteps none now (.wait millis :: rest) due =
        awaitSteps none (wakeAt now due millis) rest none := by
      rw [awaitSteps, if_neg running]
      rfl
    rw [onward]
    refine ih (fun bound given => ?_)
    simpa [missed?, given] using missed
  | case4 now steps due noWait => exact inTime

end Script

namespace Streams

/-- A reply that was cut off, beside the reply that comes without a limit: it was given at the
moment of the deadline, before the other one, and whoever asks again gets the other one. -/
structure CutOff (deadline : Option Deadline) (asked : Request) (reply unlimited : Reply) :
    Prop where
  expired : ∃ bound, deadline = some bound ∧ reply.now = bound.instant ∧
    reply.answer = .failed (.noProgress bound.limit)
  early : reply.now < unlimited.now
  again : reply.streams.await none reply.now asked = unlimited

theorem now_awaitOn {α : Type} (script : Script α)
    (answer : List (Step α) → Answer × List (Step α)) (update : Script α → Option Answer → Streams)
    (deadline : Option Deadline) (now : Instant) :
    (awaitOn script answer update deadline now).now = (script.await deadline now).now := by
  unfold awaitOn
  split <;> simp_all only [Script.Arrival.now]

theorem awaitOn_of_allows {α : Type} {script : Script α}
    {answer : List (Step α) → Answer × List (Step α)} {update : Script α → Option Answer → Streams}
    {deadline : Option Deadline} {now : Instant} {asked : Request}
    (inTime : Deadline.Allows deadline now)
    (resumes : ∀ left later,
      (update left none).await none later asked = awaitOn left answer update none later) :
    let reply := awaitOn script answer update deadline now
    (reply.late = true ∧ CutOff deadline asked reply (awaitOn script answer update none now)) ∨
      (reply.late = false ∧ Deadline.Allows deadline reply.now) := by
  have waited := @Script.awaitSteps_of_allows _ deadline now script.steps script.due inTime
  intro reply
  cases arrival : script.await deadline now with
  | reached later left =>
    have reply_eq : reply.late = false ∧ reply.now = later := by
      simp only [reply, awaitOn, arrival, and_self]
    rw [Script.await] at arrival
    rw [arrival] at waited
    exact .inr ⟨reply_eq.1, reply_eq.2.symm ▸ waited⟩
  | expired later limit left =>
    have reply_eq : reply = ⟨.failed (.noProgress limit), true, later, update left none⟩ := by
      simp only [reply, awaitOn, arrival]
    rw [Script.await] at arrival
    rw [arrival] at waited
    obtain ⟨bound, given, rfl, later_eq, early, again⟩ := waited
    rw [reply_eq]
    refine .inl ⟨rfl, ⟨bound, given, later_eq, rfl⟩, ?_, ?_⟩
    · rw [now_awaitOn]
      exact early
    · have again : left.await none later = script.await none now := again
      rw [resumes, awaitOn, awaitOn, again]

/-- A request that is made in time is answered in time, or cut off at its deadline. -/
theorem await_of_allows {deadline : Option Deadline} {now : Instant}
    (inTime : Deadline.Allows deadline now) (streams : Streams) (asked : Request) :
    let reply := streams.await deadline now asked
    (reply.late = true ∧ CutOff deadline asked reply (streams.await none now asked)) ∨
      (reply.late = false ∧ Deadline.Allows deadline reply.now) := by
  cases asked with
  | fetch room => exact awaitOn_of_allows inTime (fun _ _ => rfl)
  | read room => exact awaitOn_of_allows inTime (fun _ _ => rfl)
  | write octets => exact awaitOn_of_allows inTime (fun _ _ => rfl)
  | flush => exact awaitOn_of_allows inTime (fun _ _ => rfl)
  | shutdown => exact awaitOn_of_allows inTime (fun _ _ => rfl)

end Streams

end LineEcho
