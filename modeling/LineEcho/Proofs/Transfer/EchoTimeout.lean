import LineEcho.Proofs.Transfer.Choices

/-!
# The limit on the echo

The limit on the echo counts from the moment at which a transfer begins to send.  So what decides is
the moment at which the other side closes, and not how long that is after the client shut its own
direction down: an echo that ends together with the shutdown, or soon after it, is too late if
sending took longer than the limit.
-/

namespace LineEcho

namespace Incoming

/-- The moment at which somebody who takes everything as soon as it comes finds the end, if no fault
comes before it. -/
def endsAt? : Instant → List (Step Incoming) → Option Instant → Option Instant
  | now, [], _ => some now
  | now, .wait millis :: rest, due => endsAt? (max now (Script.wakeAt now due millis)) rest none
  | now, .answer (.data octets) :: rest, _ =>
    if octets.isEmpty then some now else endsAt? now rest none
  | now, .answer .finished :: _, _ => some now
  | _, .answer (.fails _) :: _, _ => none

theorem le_endsAt? {now stop : Instant} {steps : List (Step Incoming)} {due : Option Instant}
    (ends : endsAt? now steps due = some stop) : now ≤ stop := by
  fun_induction endsAt? now steps due with
  | case1 now due => exact Nat.le_of_eq (Option.some.inj ends)
  | case2 now millis rest due ih => exact Nat.le_trans (Nat.le_max_left _ _) (ih ends)
  | case3 now octets rest due nothing => exact Nat.le_of_eq (Option.some.inj ends)
  | case4 now octets rest due delivers ih => exact ih ends
  | case5 now rest due => exact Nat.le_of_eq (Option.some.inj ends)
  | case6 now fault rest due => contradiction

theorem endsAt?_of_not_wait {now : Instant} {steps : List (Step Incoming)} {due : Option Instant}
    (noWait : ∀ millis rest, steps ≠ .wait millis :: rest) :
    endsAt? now steps due = endsAt? now steps none := by
  rcases steps with _ | ⟨millis | value, rest⟩
  · rfl
  · exact absurd rfl (noWait millis rest)
  · cases value <;> rfl

/-- Sitting out waits leaves the end where it is, unless the deadline comes before the answer, and
then it comes before the end. -/
theorem endsAt?_awaitSteps {deadline : Option Deadline} {now stop : Instant}
    {steps : List (Step Incoming)} {due : Option Instant}
    (ends : endsAt? now steps due = some stop)
    (inTime : ∀ bound, deadline = some bound → now ≤ bound.instant) :
    match Script.awaitSteps deadline now steps due with
    | .reached later left =>
      endsAt? later left none = some stop ∧
        (∀ bound, deadline = some bound → later ≤ bound.instant) ∧
        ∀ millis rest, left ≠ .wait millis :: rest
    | .expired _ limit _ =>
      ∃ bound, Script.missed? deadline stop = some bound ∧ bound.limit = limit := by
  fun_induction Script.awaitSteps deadline now steps due with
  | case1 now millis rest due passed ih =>
    rw [endsAt?, Nat.max_eq_left passed] at ends
    exact ih ends inTime
  | case2 now millis rest due running bound missed =>
    rw [endsAt?] at ends
    have before := le_endsAt? ends
    obtain ⟨given, early⟩ := Option.filter_eq_some_iff.1 missed
    refine ⟨bound, Option.filter_eq_some_iff.2 ⟨given, ?_⟩, rfl⟩
    simp only [decide_eq_true_eq] at early ⊢
    exact Nat.lt_of_lt_of_le early (Nat.le_trans (Nat.le_max_right _ _) before)
  | case3 now millis rest due running missed ih =>
    rw [endsAt?, Nat.max_eq_right (Nat.le_of_not_le running)] at ends
    refine ih ends (fun bound given => ?_)
    simpa [Script.missed?, given] using missed
  | case4 now steps due noWait =>
    exact ⟨(endsAt?_of_not_wait noWait).symm.trans ends, inTime, noWait⟩

/-- A read finds the end, or it leaves the end where it is. -/
theorem endsAt?_answer {room : Nat} (some_room : 0 < room) {now stop : Instant}
    {steps : List (Step Incoming)} (noWait : ∀ millis rest, steps ≠ .wait millis :: rest)
    (ends : endsAt? now steps none = some stop) :
    ((answer room steps).1 = .received [] ∧ stop = now) ∨
      ∃ octet octets, (answer room steps).1 = .received (octet :: octets) ∧
        endsAt? now (answer room steps).2 none = some stop := by
  fun_cases answer room steps with
  | case1 octets rest =>
    cases octets with
    | nil => exact .inl ⟨by simp, (Option.some.inj ends).symm⟩
    | cons octet octets =>
      obtain ⟨more, rfl⟩ := Nat.exists_eq_succ_of_ne_zero (Nat.pos_iff_ne_zero.1 some_room)
      refine .inr ⟨octet, octets.take more, rfl, ?_⟩
      have ends : endsAt? now rest none = some stop := ends
      split
      · exact ends
      · rw [endsAt?, if_neg ‹_›]
        exact ends
  | case2 rest => exact .inl ⟨rfl, (Option.some.inj ends).symm⟩
  | case3 fault rest => contradiction
  | case4 steps _ _ _ =>
    rcases steps with _ | ⟨millis | value, rest⟩
    · exact .inl ⟨rfl, (Option.some.inj ends).symm⟩
    · exact absurd rfl (noWait millis rest)
    · cases value <;> simp_all

end Incoming

namespace Draining

/-- A reader who has not failed and to whom the end comes at a certain moment. -/
structure Expects (stop : Instant) (progress : Progress Draining) : Prop where
  going : progress.state.result = none
  ends : Incoming.endsAt? progress.now progress.streams.incoming.steps
    progress.streams.incoming.due = some stop
  inTime : ∀ bound, progress.state.deadline = some bound → progress.now ≤ bound.instant

/-- The result of draining to which the end comes at a certain moment. -/
def resultAt (deadline : Option Deadline) (stop : Instant) : Except Fault Unit :=
  match Script.missed? deadline stop with
  | some bound => .error (.noProgress bound.limit)
  | none => .ok ()

theorem resultAt_some (bound : Deadline) (stop : Instant) :
    resultAt (some bound) stop =
      if stop ≤ bound.instant then .ok () else .error (.noProgress bound.limit) := by
  by_cases inTime : stop ≤ bound.instant
  · have onTime : Script.missed? (some bound) stop = none :=
      Option.filter_eq_none_iff.2 (fun other given => by cases given; simpa using inTime)
    rw [resultAt, onTime, if_pos inTime]
  · have missed : Script.missed? (some bound) stop = some bound :=
      Option.filter_eq_some_iff.2 ⟨rfl, by simpa using inTime⟩
    rw [resultAt, missed, if_neg inTime]

/-- A read ends draining as it has to end, or the end comes at the same moment as before. -/
theorem Expects.advance {stop : Instant} {progress : Progress Draining}
    (expects : Expects stop progress) :
    (machine.advance progress (.read room)).state.deadline = progress.state.deadline ∧
      ((machine.advance progress (.read room)).state.result =
          some (resultAt progress.state.deadline stop) ∨
        Expects stop (machine.advance progress (.read room))) := by
  obtain ⟨now, draining, streams, late⟩ := progress
  obtain ⟨going, ends, inTime⟩ := expects
  have waited := Incoming.endsAt?_awaitSteps ends inTime
  simp only [Machine.advance, Streams.await, Streams.awaitOn, Script.await]
  have deadline_eq : machine.deadline draining = draining.deadline := rfl
  rw [deadline_eq]
  split
  · rename_i later limit left arrival
    obtain ⟨bound, missed, rfl⟩ : ∃ bound, Script.missed? draining.deadline stop = some bound ∧
      bound.limit = limit := by simpa only [arrival] using waited
    exact ⟨rfl, .inl (by simp [machine, resume, resultAt, missed])⟩
  · rename_i later steps arrival
    obtain ⟨ends, early, noWait⟩ : _ ∧ _ ∧ _ := by simpa only [arrival] using waited
    have some_room : 0 < room := by decide
    rcases Incoming.endsAt?_answer some_room noWait ends with
      ⟨given, rfl⟩ | ⟨octet, octets, given, endsStill⟩
    · have onTime : Script.missed? draining.deadline stop = none :=
        Option.filter_eq_none_iff.2 (fun bound given => by simpa using early bound given)
      refine ⟨by simp only [given]; rfl, .inl ?_⟩
      simp [given, machine, resume, resultAt, onTime]
    · refine ⟨by simp only [given]; rfl, .inr ⟨?_, ?_, ?_⟩⟩
      · simp only [given]
        exact going
      · exact endsStill
      · simp only [given]
        exact early

theorem result_finish {stop : Instant} {progress : Progress Draining}
    (expects : Expects stop progress) :
    (machine.finish progress).state.result = some (resultAt progress.state.deadline stop) := by
  fun_induction Machine.finish machine progress with
  | case1 progress asks =>
    have asksNothing : progress.state.request = none := asks
    simp [request, expects.going] at asksNothing
  | case2 progress asked asks ih =>
    -- a reader who has not failed asks for a read and nothing else
    obtain rfl : asked = .read room := by
      have asks : progress.state.request = some asked := asks
      simpa [request, expects.going] using asks.symm
    obtain ⟨deadline_eq, ended | expects⟩ := expects.advance
    · rw [machine.finish_of_request_eq_none]
      · exact ended
      · show request _ = none
        simp [request, ended]
    · rw [ih expects, deadline_eq]

theorem result_run {now stop : Instant} {limit : Option Duration} {receipt : Receipt}
    {streams : Streams}
    (ends : Incoming.endsAt? now streams.incoming.steps streams.incoming.due = some stop) :
    (run now limit receipt streams).state.result =
      some (resultAt (limit.map (⟨·, now⟩)) stop) := by
  refine result_finish ⟨rfl, ends, fun bound given => ?_⟩
  obtain ⟨_, _, rfl⟩ := Option.map_eq_some_iff.1 given
  exact Nat.le_add_right _ _

end Draining

namespace Client

variable {config : ClientConfig} {content : List (Step Incoming)} {connection : Connection}

theorem result_drainedAlone {stop : Instant}
    (ends : Incoming.endsAt? connection.since connection.streams.incoming.steps
      connection.streams.incoming.due = some stop) :
    (drainedAlone config connection).state.result =
      some (Draining.resultAt
        ((timeoutOf config.echoTimeout).map (⟨·, connection.since⟩)) stop) :=
  Draining.result_run ends

/-- **The limit on the echo runs from the start.**  When a file is sent and its direction is
finished, and the other side closes at a certain moment after no fault, the transfer succeeds if
there is no limit on the echo or that moment comes no later than the limit after the transfer began
to send.  Otherwise it fails, however soon after the end of the client's own direction the other
side closed. -/
theorem echo_limit_runs_from_start (choices : Nat → Side) (file : String) {counts : SendCounts}
    {stop : Instant} (sent : (sentAlone config content connection).state.result = .ok counts)
    (finished : (finishedAlone config content connection).state.result = .ok ())
    (ends : Incoming.endsAt? connection.since connection.streams.incoming.steps
      connection.streams.incoming.due = some stop) :
    (transfer choices file (.ok content) ⟨config, .connected connection⟩).result =
      match config.echoTimeout with
      | none => .ok (reportAlone config content connection file counts)
      | some millis =>
        if stop ≤ connection.since + millis.toNat then
          .ok (reportAlone config content connection file counts)
        else .error (.transfer .finalizing (.noProgress (.ofMillis millis.toNat))) := by
  have drained : (drainedAlone config connection).state.result = _ := result_drainedAlone ends
  have result_eq :
      (transfer choices file (.ok content) ⟨config, .connected connection⟩).result =
        (send config choices file content connection).1 := rfl
  rw [result_eq, send_of_drained choices file sent finished drained]
  cases config.echoTimeout with
  | none => rfl
  | some millis =>
    have given : (timeoutOf (some millis)).map (Deadline.mk · connection.since) =
        some ⟨.ofMillis millis.toNat, connection.since⟩ := rfl
    have instant_eq : Deadline.instant ⟨.ofMillis millis.toNat, connection.since⟩ =
        connection.since + millis.toNat := by
      rw [Deadline.instant, Duration.ticks_ofMillis]
    rw [given, Draining.resultAt_some, instant_eq]
    dsimp only
    split
    · rfl
    · rfl

/-- A limit of fifty milliseconds on the echo. -/
def hasty : ClientConfig :=
  { (default : ClientConfig) with echoTimeout := some 50 }

/-- A connection that takes a hundred milliseconds to accept what is written, and on which the other
side closes as soon as it has. -/
def slow : Connection where
  peer := .v4 [127, 0, 0, 1] 5555
  since := 0
  streams :=
    { (default : Streams) with
      outgoing := .ofSteps [.wait 100]
      incoming := .ofSteps [.wait 100, .answer .finished] }

theorem sentAlone_slow : (sentAlone hasty [] slow).state.result = .ok ⟨0, 9, 0⟩ := by
  cbv

theorem finishedAlone_slow :
    (finishedAlone hasty [] slow).state.result = .ok () ∧
      (finishedAlone hasty [] slow).now = 100 := by
  cbv

theorem endsAt?_slow :
    Incoming.endsAt? slow.since slow.streams.incoming.steps slow.streams.incoming.due =
      some 100 := by
  decide

/-- The other side closes in the very moment in which the client's direction is shut down, and that
is too late. -/
theorem echo_limit_runs_out_on_slow :
    (finishedAlone hasty [] slow).now = 100 ∧
      Incoming.endsAt? slow.since slow.streams.incoming.steps slow.streams.incoming.due =
        some 100 ∧
      (transfer (fun _ => .outward) "file" (.ok []) ⟨hasty, .connected slow⟩).result =
        .error (.transfer .finalizing (.noProgress (.ofMillis 50))) := by
  refine ⟨finishedAlone_slow.2, endsAt?_slow, ?_⟩
  exact (echo_limit_runs_from_start (fun _ => .outward) "file" sentAlone_slow finishedAlone_slow.1
    endsAt?_slow).trans (if_neg (by decide))

/-- The limit does not count from the end of the client's own direction. -/
theorem echo_limit_not_from_shutdown :
    ¬ ∀ (config : ClientConfig) (content : List (Step Incoming)) (connection : Connection)
      (counts : SendCounts) (stop : Instant) (millis : UInt64) (choices : Nat → Side)
      (file : String), config.echoTimeout = some millis →
      (sentAlone config content connection).state.result = .ok counts →
      (finishedAlone config content connection).state.result = .ok () →
      Incoming.endsAt? connection.since connection.streams.incoming.steps
        connection.streams.incoming.due = some stop →
      stop ≤ (finishedAlone config content connection).now + millis.toNat →
      (transfer choices file (.ok content) ⟨config, .connected connection⟩).result.isOk = true := by
  intro claimed
  have inTime : 100 ≤ (finishedAlone hasty [] slow).now + (50 : UInt64).toNat := by
    rw [finishedAlone_slow.2]
    decide
  have succeeds := claimed hasty [] slow ⟨0, 9, 0⟩ 100 50 (fun _ => .outward) "file" rfl
    sentAlone_slow finishedAlone_slow.1 endsAt?_slow inTime
  have drained : (drainedAlone hasty slow).state.result =
      some (.error (.noProgress (.ofMillis 50))) := result_drainedAlone endsAt?_slow
  have failed := send_of_drained (fun _ => .outward) "file" sentAlone_slow finishedAlone_slow.1
    drained
  have result_eq : (transfer (fun _ => .outward) "file" (.ok []) ⟨hasty, .connected slow⟩).result =
      (send hasty (fun _ => .outward) "file" [] slow).1 := rfl
  rw [result_eq, failed] at succeeds
  contradiction

end Client

end LineEcho
