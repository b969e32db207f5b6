import LineEcho.Proofs.Echo.Fidelity
import LineEcho.Proofs.Stream.Limits

/-!
# The life of a session

A session is accepted, echoes until one poll makes it leave the loop, shuts its direction down and
is closed.  The first time it is driven takes it all the way.  The shutdown is the only one and the
last thing that reaches the connection, and nothing of the outcome depends on what comes of it.  A
session that is closed is not driven again: every later attempt is refused and touches nothing.

`Session.Concludes` follows a session through the phases and says which of its polls asked for a
shutdown, and which one gave the result.
-/

namespace LineEcho

/-- The result of a loop that is left after a poll. -/
def Poll.outcome (poll : Poll) : Except Fault Unit :=
  match poll.fault? with
  | some fault => .error fault
  | none => .ok ()

namespace Streams

/-- The same streams with another script for the shutdowns. -/
def withShutdowns (shutdowns : Script Signal) (streams : Streams) : Streams :=
  { streams with shutdowns := shutdowns }

/-- Only a shutdown takes notice of the script for the shutdowns. -/
theorem await_withShutdowns {asked : Request} (other : asked ≠ .shutdown)
    (shutdowns : Script Signal) (deadline : Option Deadline) (now : Instant) (streams : Streams) :
    (streams.withShutdowns shutdowns).await deadline now asked =
      let reply := streams.await deadline now asked
      { reply with streams := reply.streams.withShutdowns shutdowns } := by
  cases asked with
  | shutdown => exact absurd rfl other
  | _ =>
    simp only [await, awaitOn, withShutdowns]
    split <;> rfl

end Streams

/-- The poll that decided, the reason and the result fit each other. -/
theorem Poll.Decides.outcome_cases {decisive : Poll} {reason : CloseReason}
    (decides : decisive.Decides reason) :
    match decisive.outcome with
    | .ok _ => reason = .peerClosed ∧ decisive.isEnd = true
    | .error fault => decisive.fault? = some fault ∧
        ((∃ room, decisive.asked = .read room ∧ reason = .readFailed fault.text) ∨
          ∃ octets, decisive.asked = .write octets ∧ reason = .writeFailed fault.text) := by
  cases decides with
  | finished => exact ⟨rfl, rfl⟩
  | readFault => exact ⟨rfl, .inl ⟨_, rfl, rfl⟩⟩
  | writeFault => exact ⟨rfl, .inr ⟨_, rfl, rfl⟩⟩
  | nothingAccepted => exact ⟨rfl, .inr ⟨_, rfl, rfl⟩⟩

namespace Session

theorem phase_of_request_shutdown {session : Session}
    (asks : session.request = some .shutdown) : ∃ result, session.phase = .closing result := by
  cases phase : session.phase with
  | closing result => exact ⟨result, rfl⟩
  | _ => simp [request, phase] at asks

/-- No limit is put on the shutdown. -/
theorem deadline_shutdown {session : Session} (asks : session.request = some .shutdown) :
    session.deadline = none := by
  obtain ⟨result, closing⟩ := phase_of_request_shutdown asks
  simp only [deadline, closing]

theorem late_shutdown {progress : Progress Session}
    (asks : progress.state.request = some .shutdown) :
    (machine.poll progress .shutdown).late = false := by
  have unlimited : machine.deadline progress.state = none := deadline_shutdown asks
  simp only [Machine.poll, unlimited, Streams.late_await_of_unlimited]

/-- A session that leaves the loop shuts its direction down and is closed, whatever comes of
that. -/
theorem finish_closing {progress : Progress Session} {result : Except Fault Unit}
    (closing : progress.state.phase = .closing result) :
    (machine.finish progress).state = { progress.state with phase := .closed result } ∧
      (machine.finish progress).streams.log.toList =
        progress.streams.log.toList ++ [.shutdown] := by
  have asks : machine.request progress.state = some .shutdown := by
    simp only [machine, request, closing]
  have closed : (machine.advance progress .shutdown).state =
      { progress.state with phase := .closed result } := by
    simp only [Machine.advance, machine, resume, closing]
  have asksNothing : machine.request (machine.advance progress .shutdown).state = none := by
    rw [closed]
    rfl
  rw [machine.finish_of_request_eq_some asks, machine.finish_of_request_eq_none asksNothing]
  exact ⟨closed, Machine.log_advance_shutdown (deadline_shutdown asks)⟩

/-- What comes of the shutdown changes neither the session nor the log. -/
theorem finish_withShutdowns (shutdowns : Script Signal) (progress : Progress Session) :
    let other :=
      machine.finish { progress with streams := progress.streams.withShutdowns shutdowns }
    other.state = (machine.finish progress).state ∧
      other.streams.log = (machine.finish progress).streams.log := by
  intro other
  fun_induction Machine.finish machine progress with
  | case1 progress asks =>
    have same : other = _ := machine.finish_of_request_eq_none asks
    rw [same]
    exact ⟨rfl, rfl⟩
  | case2 progress asked asks ih =>
    by_cases shuts : asked = .shutdown
    · obtain ⟨result, closing⟩ := phase_of_request_shutdown (shuts ▸ asks)
      rw [← machine.finish_of_request_eq_some asks]
      obtain ⟨closed, log⟩ := finish_closing closing
      have closingToo :
          { progress with streams := progress.streams.withShutdowns shutdowns }.state.phase =
            .closing result := closing
      obtain ⟨closedToo, logToo⟩ := finish_closing closingToo
      exact ⟨closedToo.trans closed.symm, Array.toList_inj.1 (logToo.trans log.symm)⟩
    · -- the answer is the same, so the two runs go on side by side
      have asksToo : machine.request
          { progress with streams := progress.streams.withShutdowns shutdowns }.state =
            some asked := asks
      have next : machine.advance
          { progress with streams := progress.streams.withShutdowns shutdowns } asked =
            { machine.advance progress asked with
              streams := (machine.advance progress asked).streams.withShutdowns shutdowns } := by
        simp only [Machine.advance, Streams.await_withShutdowns shuts]
      have same : other = _ := machine.finish_of_request_eq_some asksToo
      rw [same, next]
      exact ih

/-- No poll so far asked for a shutdown. -/
def NoShutdown (past : List Poll) : Prop :=
  ∀ poll ∈ past, poll.asked ≠ .shutdown

theorem NoShutdown.concat {past : List Poll} (before : NoShutdown past) {asked : Request}
    (other : asked ≠ .shutdown) (answer : Answer) (late : Bool) :
    NoShutdown (past ++ [⟨asked, answer, late⟩]) :=
  forall_polls_concat before other

/-- The transcript of a session, phase by phase: in the loop it asks for no shutdown, the poll after
which it leaves gives the result, and then it asks for one. -/
def Concludes (past : List Poll) (session : Session) : Prop :=
  match session.phase with
  | .accepted => False
  | .reading _ => NoShutdown past
  | .writing _ _ _ => NoShutdown past
  | .closing result => NoShutdown past ∧ ∃ before decisive,
      past = before ++ [decisive] ∧ decisive.outcome = result
  | .closed result => ∃ before decisive last,
      past = before ++ [decisive, last] ∧ last.asked = .shutdown ∧ last.late = false ∧
      NoShutdown (before ++ [decisive]) ∧ decisive.outcome = result

theorem concludes_wrote {now since : Instant} {chunk unsent : Bytes} {count : Nat}
    {past : List Poll} {late : Bool} {session : Session} (before : NoShutdown past) :
    (session.wrote now since chunk unsent count).Concludes
      (past ++ [⟨.write unsent, .accepted count, late⟩]) := by
  have going : NoShutdown (past ++ [⟨.write unsent, .accepted count, late⟩]) :=
    before.concat (by simp) _ _
  unfold wrote
  split
  · rename_i nothing
    subst nothing
    exact ⟨going, past, _, rfl, rfl⟩
  · split
    · exact going
    · exact going

theorem Concludes.resume (now : Instant) {past : List Poll} {poll : Poll} {session : Session}
    (concludes : session.Concludes past) (asks : session.request = some poll.asked)
    (fits : Answer.Fits poll.asked poll.answer)
    (inTime : poll.asked = .shutdown → poll.late = false) :
    (session.resume now poll.answer).Concludes (past ++ [poll]) := by
  obtain ⟨asked, answer, late⟩ := poll
  obtain ⟨settings, phase, octets, count, reason⟩ := session
  have stays (before : NoShutdown past) (other : asked ≠ .shutdown) :
      NoShutdown (past ++ [⟨asked, answer, late⟩]) := before.concat other answer late
  cases phase with
  | accepted => simp [request] at asks
  | reading since =>
    simp only [request, Option.some.injEq] at asks
    subst asks
    have going := stays concludes (by simp)
    cases fits with
    | @delivered _ octets within =>
      cases octets with
      | nil => exact ⟨going, past, _, rfl, rfl⟩
      | cons octet rest => exact going
    | failed => exact ⟨going, past, _, rfl, rfl⟩
  | writing since chunk unsent =>
    simp only [request, Option.some.injEq] at asks
    subst asks
    have going := stays concludes (by simp)
    cases fits with
    | accepted within => exact concludes_wrote concludes
    | interrupted => exact going
    | failed => exact ⟨going, past, _, rfl, rfl⟩
  | closing result =>
    simp only [request, Option.some.injEq] at asks
    subst asks
    obtain ⟨going, before, decisive, rfl, gives⟩ := concludes
    exact ⟨before, decisive, _, List.append_assoc _ _ _, rfl, inTime rfl, going, gives⟩
  | closed result => simp [request] at asks

theorem run_concludes (settings : EchoSettings) (now : Instant) (streams : Streams) :
    ((start settings).run now streams).session.Concludes (polls settings now streams) := by
  have begins : ((start settings).read now).Concludes [] := by
    intro poll member
    contradiction
  refine machine.finish_polls_invariant (fun progress past => progress.state.Concludes past) ?_
    ⟨now, (start settings).read now, streams, false⟩ [] begins
  intro progress past asked asks concludes
  refine Concludes.resume _ concludes asks (Streams.await_fits _ _ _ _) ?_
  rintro rfl
  exact late_shutdown asks

/-- The runs of a session that is driven again and again, each time some while after the last. -/
def runs (now : Instant) (streams : Streams) (session : Session) : List Nat → List Run
  | [] => []
  | pause :: pauses =>
    let run := session.run (now + pause) streams
    run :: runs run.now run.streams run.session pauses

theorem runs_of_closed {session : Session} {result : Except Fault Unit}
    (closed : session.phase = .closed result) (streams : Streams) (pauses : List Nat)
    (now : Instant) :
    (runs now streams session pauses).map (fun run => (run.result, run.session, run.streams)) =
      List.replicate pauses.length (.error .alreadyClosed, session, streams) := by
  induction pauses generalizing now with
  | nil => rfl
  | cons pause pauses ih =>
    have refused : session.run (now + pause) streams =
        ⟨.error .alreadyClosed, session, now + pause, streams, false⟩ := by
      simp only [run, closed]
    rw [runs, refused, List.map_cons, ih, List.length_cons, List.replicate_succ]

/-- **The life of a session.**  Before it is driven, a session is accepted and has counted nothing.
The first run leaves it closed, whatever the streams do and whether or not they have an interrupted
write tried again.  One poll decides, the first one that fails or finds that nothing more comes in,
and only the shutdown comes after it, which is the only one and the last thing that reaches the
connection; whatever the shutdown comes to, the result, the session and the log are the same.  The
result is good exactly when the peer closed, and otherwise it is the fault of the read or of the
write that failed, whose text is noted as the reason.  However often a closed session is driven, it
refuses, stays as it is and does nothing to the streams. -/
theorem session_lifecycle (settings : EchoSettings) (now : Instant) (streams : Streams) :
    let accepted := start settings
    let first := accepted.run now streams
    accepted.state = .accepted ∧ accepted.summary = ⟨0, 0, none⟩ ∧
    first.session.state = .closed ∧
    (∃ before, .shutdown ∉ before ∧
      first.streams.log.toList = streams.log.toList ++ (before ++ [.shutdown])) ∧
    (∀ shutdowns,
      let other := accepted.run now (streams.withShutdowns shutdowns)
      other.result = first.result ∧ other.session = first.session ∧
        other.streams.log = first.streams.log) ∧
    (∃ before decisive last reason,
      polls settings now streams = before ++ [decisive, last] ∧
      last.asked = .shutdown ∧ NoShutdown (before ++ [decisive]) ∧
      (∀ poll ∈ before, poll.GoesOn) ∧
      first.session.summary.reason = some reason ∧
      match first.result with
      | .ok _ => reason = .peerClosed ∧ decisive.isEnd = true
      | .error fault => decisive.fault? = some fault ∧
          ((∃ room, decisive.asked = .read room ∧ reason = .readFailed fault.text) ∨
            ∃ octets, decisive.asked = .write octets ∧ reason = .writeFailed fault.text)) ∧
    ∀ pauses, (runs first.now first.streams first.session pauses).map
        (fun run => (run.result, run.session, run.streams)) =
      List.replicate pauses.length
        (.error ⟨.notConnected, "connection already closed"⟩, first.session, first.streams) := by
  intro accepted first
  obtain ⟨-, settled, result, phase⟩ := run_tallies_settled settings now streams
  have concludes := run_concludes settings now streams
  simp only [Settled, phase] at settled
  simp only [Concludes, phase] at concludes
  have phase : first.session.phase = .closed result := phase
  obtain ⟨before, decisive, last, ends, shuts, inTime, noShutdown, gives⟩ := concludes
  obtain ⟨_, _, _, endsToo, -, ⟨reason, isReason, decides⟩, goesOn⟩ := settled
  -- both invariants take the transcript apart at the same place
  obtain ⟨rfl, same⟩ := List.append_inj' (ends.symm.trans endsToo) rfl
  cases same
  refine ⟨rfl, rfl, by simp only [state, phase], ?_, ?_, ?_, ?_⟩
  · refine ⟨(before ++ [decisive]).filterMap Poll.entry, ?_, ?_⟩
    · intro logged
      obtain ⟨poll, member, entry⟩ := List.mem_filterMap.1 logged
      exact Poll.entry_ne_shutdown (noShutdown poll member) entry
    · have log : first.streams.log.toList =
          streams.log.toList ++ (polls settings now streams).filterMap Poll.entry :=
        machine.log_finish _
      have entry := Poll.entry_shutdown shuts inTime
      have split : polls settings now streams = (before ++ [decisive]) ++ [last] := by simp [ends]
      have rest : [last].filterMap Poll.entry = [.shutdown] := by simp [entry]
      rw [log, split, List.filterMap_append, rest]
  · intro shutdowns other
    obtain ⟨session_eq, log_eq⟩ :=
      finish_withShutdowns shutdowns ⟨now, accepted.read now, streams, false⟩
    exact ⟨congrArg Session.result session_eq, session_eq, log_eq⟩
  · refine ⟨before, decisive, last, reason, ends, shuts, noShutdown, goesOn, isReason, ?_⟩
    have result_eq : first.result = result := by
      show first.session.result = result
      simp only [Session.result, phase]
    rw [result_eq, ← gives]
    exact decides.outcome_cases
  · exact fun pauses => runs_of_closed phase _ _ _

end Session

end LineEcho
