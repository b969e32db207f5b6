import LineEcho.Proofs.Transfer.Reading
import LineEcho.Proofs.Wire.Parties

/-!
# Conservation of octets in a circuit

An octet of a file that is being transferred is unsent, on its way to the service, at the service,
on its way back, or received.  `Circuit.Sound` says that each party accounts for its share of them,
and holds of every circuit that can be reached, whatever the order of the answers and however many
octets each of them moves.

When a transfer has returned, both pipes are shut and empty, and so all that was sent was echoed and
received.
-/

namespace LineEcho

namespace Circuit

/-- Every party accounts for what went through its pipes. -/
structure Sound (setup : Setup) (circuit : Circuit) : Prop where
  delivers : circuit.delivery.Delivers setup circuit.unread circuit.forth
  drains : circuit.draining.Drains setup.capture circuit.back
  echoes : circuit.session.Echoes circuit.forth circuit.back

variable {setup : Setup} {circuit next : Circuit}

theorem sound_start (setup : Setup) : (start setup).Sound setup where
  delivers := Delivery.delivers_start setup
  drains := Draining.drains_start setup.capture setup.roomBack
  echoes := Session.echoes_start _ _ _

/-- One answer to one of the parties keeps a circuit sound. -/
theorem Sound.step (sound : circuit.Sound setup) (step : circuit.Step next) :
    next.Sound setup := by
  obtain ⟨delivers, drains, echoes⟩ := sound
  cases step with
  | @fetch space count asks moves asked there =>
    have split : circuit.unread.take count ++ circuit.unread.drop count = circuit.unread :=
      List.take_append_drop count circuit.unread
    refine ⟨Delivery.Delivers.fetch (split.symm ▸ delivers) asks (fun nothing => ?_), drains,
      echoes⟩
    exact absurd nothing (Bytes.take_ne_nil moves there)
  | fetchEnd asks nothing =>
    exact ⟨delivers.fetch asks (fun _ => nothing), drains, echoes⟩
  | @write octets answer forth asks writes =>
    refine ⟨delivers.write asks writes, drains, ?_⟩
    -- the session may have left its loop, but not while the client still writes
    cases writes with
    | part count moves offered room => exact echoes.push (delivers.isOpen asks) _
  | flush asks => exact ⟨delivers.flush asks, drains, echoes⟩
  | shutForth asks => exact ⟨delivers.shutdown asks, drains, echoes.shut⟩
  | drain asks reads => exact ⟨delivers, drains.read asks reads, echoes.of_reads reads⟩
  | echoRead asks reads => exact ⟨delivers.of_reads reads, drains, echoes.read asks reads⟩
  | @echoWrite octets answer back asks writes =>
    refine ⟨delivers, ?_, echoes.write asks writes⟩
    cases writes with
    | part count moves offered room => exact drains.push (echoes.isOpen asks) _
  | shutBack asks => exact ⟨delivers, drains.shut, echoes.shutdown asks⟩

theorem sound_of_reaches (reaches : (start setup).Reaches circuit) : circuit.Sound setup := by
  induction reaches with
  | refl => exact sound_start setup
  | step _ step sound => exact sound.step step

/-- A transfer that is over has not failed, and its pipe back has ended. -/
theorem Sound.outcome_eq {outcome : Except Error (SendCounts × Receipt)}
    (sound : circuit.Sound setup) (isOver : circuit.outcome? = some outcome) :
    outcome = .ok (setup.counts, .ofOctets setup.capture circuit.back.passed) ∧
      circuit.forth.entered = setup.stream ∧ circuit.back.Ended := by
  obtain ⟨delivers, drains, -⟩ := sound
  cases delivered : circuit.delivery.result? with
  | none =>
    cases drained : circuit.draining.result with
    | none => simp [outcome?, delivered, drained] at isOver
    | some result =>
      obtain ⟨rfl, -⟩ := drains.ended result drained
      simp [outcome?, delivered, drained] at isOver
  | some counts =>
    obtain ⟨rfl, sent, -⟩ := delivers.sent delivered
    cases drained : circuit.draining.result with
    | none => simp [outcome?, delivered, drained] at isOver
    | some result =>
      obtain ⟨rfl, ended⟩ := drains.ended result drained
      simp only [outcome?, delivered, drained, Option.some.injEq] at isOver
      exact ⟨by rw [← isOver, drains.receipt_eq], sent, ended⟩

theorem length_stream (setup : Setup) : setup.stream.length = setup.counts.octetsSent := by
  simp [Setup.stream, Setup.counts, Sending.finalCounts, SendCounts.ofLines]

/-- **The echo from end to end.**  Take any file, any mode of line endings, any buffers and any room
in the pipes, any order in which the parties are answered and any sizes in which octets are moved.
Whenever the transfer returns a report, what went to the service are the lines of the file in their
order and then one end record, and the very same octets came back.  The lines are those that a
source yields, whatever script delivers the file to it.  The number of the octets is that of the
octets echoed and of the octets sent in the report, and that of the octets in the summary of the
session.  The report says that the end record was echoed, and has the echo just when it was to be
captured.  The session has left its loop because the peer closed. -/
theorem end_to_end_echo {file remote : String} {elapsedMicros : Nat} {report : TransferReport}
    (reaches : (start setup).Reaches circuit)
    (returned : circuit.report? file remote elapsedMicros = some (.ok report)) :
    let lines := setup.endings.linesOf setup.content
    (∀ now streams, Incoming.Holds streams.source.steps setup.content →
        (LineSource.start setup.capacity setup.endings).yield now streams = ⟨lines, none⟩) ∧
      circuit.forth.entered = lines.flatten ++ Line.endRecord ∧
      circuit.back.passed = circuit.forth.entered ∧
      report.echoedOctets = circuit.forth.entered.length ∧
      report.counts.octetsSent = circuit.forth.entered.length ∧
      circuit.session.summary.octets = circuit.forth.entered.length ∧
      report.endRecordEchoed = true ∧
      report.echo = (if setup.capture then some circuit.back.passed else none) ∧
      circuit.session.summary.reason = some .peerClosed := by
  intro lines
  have sound := sound_of_reaches reaches
  obtain ⟨outcome, isOver, reported⟩ := Option.map_eq_some_iff.1 returned
  obtain ⟨rfl, sent, ended⟩ := sound.outcome_eq isOver
  obtain ⟨-, echoed, octets, reason⟩ := sound.echoes.closed ended.isShut
  have received : circuit.back.passed = circuit.forth.entered := by
    rw [← echoed, Pipe.entered, ended.empty, List.append_nil]
  cases reported
  refine ⟨?_, sent, received, ?_, ?_, octets, ?_, rfl, reason⟩
  · intro now streams holds
    exact LineSource.yield_of_holds now setup.capacity_pos holds
  · exact congrArg List.length received
  · rw [sent, length_stream]
    rfl
  · refine (Receipt.endsInEndRecord_ofOctets _ _).2 ?_
    rw [received, sent]
    exact List.suffix_append _ _

/-- A file of one line, whose echo is captured, and a pipe back that has not room for all of it. -/
def Setup.oneLine : Setup where
  content := [0x61, Bytes.newline]
  capacity := 4
  endings := .preserve
  capture := true
  bufferSize := 8
  roomForth := 16
  roomBack := 6

/-- A run in which the service writes back while the client still sends, and in parts. -/
theorem end_to_end_echo_oneLine :
    ∃ circuit report, (start .oneLine).Reaches circuit ∧
      circuit.report? "line.txt" "localhost:7" 0 = some (.ok report) ∧
      circuit.back.passed = [0x61, Bytes.newline] ++ Line.endRecord ∧
      report.echo = some circuit.back.passed := by
  have begun : (start .oneLine).Reaches (start .oneLine) := .refl
  have fetched := begun.step (.fetch 2 rfl (by decide) (by decide) (by decide))
  have lineBegun := fetched.step (.write rfl (.part 1 (by decide) (by decide) (by decide)))
  have firstRead := lineBegun.step (.echoRead rfl (.part 1 (by decide) (by decide) (by decide)))
  have lineSent := firstRead.step (.write rfl (.part 1 (by decide) (by decide) (by decide)))
  have fileEnded := lineSent.step (.fetchEnd rfl rfl)
  have firstBack := fileEnded.step (.echoWrite rfl (.part 1 (by decide) (by decide) (by decide)))
  have allSent := firstBack.step (.write rfl (.part 9 (by decide) (by decide) (by decide)))
  have flushed := allSent.step (.flush rfl)
  have secondRead := flushed.step (.echoRead rfl (.part 8 (by decide) (by decide) (by decide)))
  have backFull := secondRead.step (.echoWrite rfl (.part 5 (by decide) (by decide) (by decide)))
  have drained := backFull.step (.drain rfl (.part 6 (by decide) (by decide) (by decide)))
  have shut := drained.step (.shutForth rfl)
  have secondBack := shut.step (.echoWrite rfl (.part 3 (by decide) (by decide) (by decide)))
  have thirdRead := secondBack.step (.echoRead rfl (.part 2 (by decide) (by decide) (by decide)))
  have thirdBack := thirdRead.step (.echoWrite rfl (.part 2 (by decide) (by decide) (by decide)))
  have peerClosed := thirdBack.step (.echoRead rfl (.finish rfl rfl))
  have closed := peerClosed.step (.shutBack rfl)
  have allDrained := closed.step (.drain rfl (.part 5 (by decide) (by decide) (by decide)))
  have returned := allDrained.step (.drain rfl (.finish rfl rfl))
  obtain ⟨-, sent, received, -, -, -, -, echo, -⟩ := end_to_end_echo returned rfl
  exact ⟨_, _, returned, rfl, received.trans sent, echo⟩

end Circuit

end LineEcho
