import LineEcho.Proofs.Echo.Tally
import LineEcho.Proofs.Receipt
import LineEcho.Proofs.Transfer.Pieces
import LineEcho.Wire.Circuit

/-!
# The parties of a circuit and their pipes

Each party is related to the pipes that it works on: `Delivery.Delivers` to the pipe to the service,
`Draining.Drains` to the pipe back, and `Session.Echoes` to both.  A pipe remembers all that went
through it, so these relations say what has been sent, echoed and received so far.

A party keeps its relation when it is answered.  It also keeps it when the party at the other end of
a pipe is, as long as nothing is put into a pipe that has been shut.
-/

namespace LineEcho

theorem Bytes.take_ne_nil {octets : Bytes} {count : Nat} (moves : 0 < count)
    (within : count ≤ octets.length) : octets.take count ≠ [] := by
  intro nothing
  have lengths := List.length_take_of_le within
  rw [nothing, List.length_nil] at lengths
  omega

namespace Pipe

variable {pipe after : Pipe} {octets : Bytes} {space : Nat} {answer : Answer}

/-- Nothing will come out of a pipe any more. -/
structure Ended (pipe : Pipe) : Prop where
  isShut : pipe.isShut = true
  empty : pipe.carried = []

theorem Ended.shut (ended : pipe.Ended) : pipe.shut.Ended :=
  ⟨rfl, ended.empty⟩

/-- A read delivers what comes out of the pipe, and nothing only when the pipe has ended. -/
theorem Reads.received (reads : pipe.Reads space answer after) :
    ∃ octets, answer = .received octets ∧ octets.length ≤ space ∧
      after.passed = pipe.passed ++ octets ∧ (octets = [] → pipe.Ended ∧ after = pipe) := by
  cases reads with
  | part count moves asked carried =>
    refine ⟨_, rfl, Nat.le_trans (List.length_take_le _ _) asked, rfl, fun nothing => ?_⟩
    exact absurd nothing (Bytes.take_ne_nil moves carried)
  | finish shut empty =>
    exact ⟨[], rfl, Nat.zero_le _, (List.append_nil _).symm, fun _ => ⟨⟨shut, empty⟩, rfl⟩⟩

theorem Reads.entered_eq (reads : pipe.Reads space answer after) :
    after.entered = pipe.entered := by
  cases reads with
  | part count moves asked carried => exact entered_pop count pipe
  | finish shut empty => rfl

theorem Reads.isShut_eq (reads : pipe.Reads space answer after) : after.isShut = pipe.isShut := by
  cases reads <;> rfl

end Pipe

theorem Sending.request_cases {sending : Sending} {asked : Request}
    (asks : sending.request = some asked) :
    (∃ fetched, sending.phase = .fetching fetched ∧ asked = .fetch sending.source.capacity) ∨
      ∃ octets, asked = .write octets := by
  simp only [request] at asks
  split at asks <;> cases asks
  · exact .inl ⟨_, ‹_›, rfl⟩
  · exact .inr ⟨_, rfl⟩
  · exact .inr ⟨_, rfl⟩

theorem Finishing.request_cases {finishing : Finishing} {asked : Request}
    (asks : finishing.request = some asked) :
    (asked = .flush ∧ ∃ since, finishing.phase = .flushing since) ∨
      asked = .shutdown ∧ ∃ since, finishing.phase = .shuttingDown since := by
  simp only [request] at asks
  split at asks <;> cases asks
  · exact .inl ⟨rfl, _, ‹_›⟩
  · exact .inr ⟨rfl, _, ‹_›⟩

/-- The octets that a transfer sends: the lines of its file, then the end record. -/
def Circuit.Setup.stream (setup : Circuit.Setup) : Bytes :=
  (setup.endings.linesOf setup.content).flatten ++ Line.endRecord

/-- The counters of a transfer that has sent its file. -/
def Circuit.Setup.counts (setup : Circuit.Setup) : SendCounts :=
  Sending.finalCounts (.ofLines (setup.endings.linesOf setup.content))

namespace Delivery

variable {setup : Circuit.Setup} {unread : Bytes} {forth : Pipe} {delivery : Delivery}

/-- How far a delivery is with a file, of which some octets are unread, by the pipe that it goes out
on. -/
inductive Delivers (setup : Circuit.Setup) (unread : Bytes) (forth : Pipe) : Delivery → Prop where
  | sending {part : Sending}
      (serves : part.Serves setup.capacity setup.endings setup.content forth.entered unread)
      (unfinished : ∀ result, part.phase ≠ .done result) (isOpen : forth.isShut = false) :
      Delivers setup unread forth (.sending part)
  | finishing {part : Finishing} (sent : forth.entered = setup.stream)
      (unfinished : ∀ result, part.phase ≠ .done result) (isOpen : forth.isShut = false) :
      Delivers setup unread forth (.finishing setup.counts part)
  | ended (sent : forth.entered = setup.stream) (isShut : forth.isShut = true) :
      Delivers setup unread forth (.ended (.ok setup.counts))

/-- A delivery goes over to finishing once all was sent. -/
theorem delivers_settle {part : Sending} (now : Instant)
    (serves : part.Serves setup.capacity setup.endings setup.content forth.entered unread)
    (isOpen : forth.isShut = false) : (settle now (.sending part)).Delivers setup unread forth := by
  cases phase : part.phase with
  | fetching fetched =>
    simp only [settle, phase]
    exact .sending serves (by simp [phase]) isOpen
  | writing since line unsent =>
    simp only [settle, phase]
    exact .sending serves (by simp [phase]) isOpen
  | ending since unsent =>
    simp only [settle, phase]
    exact .sending serves (by simp [phase]) isOpen
  | done result =>
    cases result with
    | error error => exact absurd phase (serves.unfailed error)
    | ok counts =>
      obtain ⟨written, follows⟩ := serves.follows
      simp only [Sending.Follows, phase] at follows
      obtain ⟨content_eq, sent, rfl⟩ := follows
      have lines_eq : setup.endings.linesOf setup.content = written :=
        congrArg LineSource.Yield.lines content_eq
      simp only [settle, phase]
      rw [← lines_eq] at sent ⊢
      exact .finishing sent (by simp [Finishing.start]) isOpen

theorem delivers_start (setup : Circuit.Setup) :
    (start 0 (.start setup.capacity setup.endings) none).Delivers setup setup.content
      (.ofRoom setup.roomForth) :=
  delivers_settle 0 (Sending.serves_start 0 _ _ _) rfl

/-- The pipe to the service is shut only by a delivery that has ended, which asks for nothing. -/
theorem Delivers.isOpen {asked : Request} (delivers : delivery.Delivers setup unread forth)
    (asks : delivery.request = some asked) : forth.isShut = false := by
  cases delivers with
  | sending serves unfinished isOpen => exact isOpen
  | finishing sent unfinished isOpen => exact isOpen
  | ended sent isShut => cases asks

theorem Delivers.fetch {space : Nat} {piece : Bytes}
    (delivers : delivery.Delivers setup (piece ++ unread) forth)
    (asks : delivery.request = some (.fetch space)) (ends : piece = [] → unread = []) :
    (delivery.resume 0 (.received piece)).Delivers setup unread forth := by
  cases delivers with
  | sending serves unfinished isOpen =>
    obtain ⟨fetched, phase, -⟩ | ⟨octets, other⟩ := Sending.request_cases asks
    · exact delivers_settle 0 (serves.fetch 0 phase ends) isOpen
    · cases other
  | finishing sent unfinished isOpen =>
    obtain ⟨other, -⟩ | ⟨other, -⟩ := Finishing.request_cases asks <;> cases other
  | ended sent isShut => cases asks

theorem Delivers.write {octets : Bytes} {answer : Answer} {after : Pipe}
    (delivers : delivery.Delivers setup unread forth)
    (asks : delivery.request = some (.write octets))
    (writes : forth.Writes octets answer after) :
    (delivery.resume 0 answer).Delivers setup unread after := by
  cases writes with
  | part count moves offered room =>
    cases delivers with
    | sending serves unfinished isOpen =>
      refine delivers_settle 0 ?_ isOpen
      rw [Pipe.entered_push]
      exact serves.write 0 asks moves offered
    | finishing sent unfinished isOpen =>
      obtain ⟨other, -⟩ | ⟨other, -⟩ := Finishing.request_cases asks <;> cases other
    | ended sent isShut => cases asks

theorem Delivers.flush (delivers : delivery.Delivers setup unread forth)
    (asks : delivery.request = some .flush) :
    (delivery.resume 0 .completed).Delivers setup unread forth := by
  cases delivers with
  | sending serves unfinished isOpen =>
    obtain ⟨fetched, -, other⟩ | ⟨octets, other⟩ := Sending.request_cases asks <;> cases other
  | finishing sent unfinished isOpen =>
    obtain ⟨-, since, phase⟩ | ⟨other, -⟩ := Finishing.request_cases asks
    · simp only [resume, take, Finishing.resume, phase, settle]
      exact .finishing sent (by simp) isOpen
    · cases other
  | ended sent isShut => cases asks

theorem Delivers.shutdown (delivers : delivery.Delivers setup unread forth)
    (asks : delivery.request = some .shutdown) :
    (delivery.resume 0 .completed).Delivers setup unread forth.shut := by
  cases delivers with
  | sending serves unfinished isOpen =>
    obtain ⟨fetched, -, other⟩ | ⟨octets, other⟩ := Sending.request_cases asks <;> cases other
  | finishing sent unfinished isOpen =>
    obtain ⟨other, -⟩ | ⟨-, since, phase⟩ := Finishing.request_cases asks
    · cases other
    · simp only [resume, take, Finishing.resume, phase, settle]
      exact .ended sent rfl
  | ended sent isShut => cases asks

theorem Delivers.sent {result : Except Error SendCounts}
    (delivers : delivery.Delivers setup unread forth) (isOver : delivery.result? = some result) :
    result = .ok setup.counts ∧ forth.entered = setup.stream ∧ forth.isShut = true := by
  cases delivers with
  | sending serves unfinished isOpen => cases isOver
  | finishing sent unfinished isOpen => cases isOver
  | ended sent isShut => cases isOver; exact ⟨rfl, sent, isShut⟩

theorem Delivers.of_reads {space : Nat} {answer : Answer} {after : Pipe}
    (delivers : delivery.Delivers setup unread forth) (reads : forth.Reads space answer after) :
    delivery.Delivers setup unread after := by
  have entered := reads.entered_eq
  have isShut := reads.isShut_eq
  cases delivers with
  | sending serves unfinished isOpen =>
    exact .sending (entered ▸ serves) unfinished (isShut.trans isOpen)
  | finishing sent unfinished isOpen =>
    exact .finishing (entered.trans sent) unfinished (isShut.trans isOpen)
  | ended sent shut => exact .ended (entered.trans sent) (isShut.trans shut)

end Delivery

namespace Draining

variable {capture : Bool} {back : Pipe} {draining : Draining}

/-- Draining has a receipt of all that came out of a pipe, and ends with it. -/
structure Drains (capture : Bool) (back : Pipe) (draining : Draining) : Prop where
  receipt_eq : draining.receipt = .ofOctets capture back.passed
  ended : ∀ result, draining.result = some result → result = .ok () ∧ back.Ended

theorem drains_start (capture : Bool) (room : Nat) :
    (start 0 none (.empty capture)).Drains capture (.ofRoom room) :=
  ⟨rfl, by simp [start]⟩

theorem Drains.read {space : Nat} {answer : Answer} {after : Pipe}
    (drains : draining.Drains capture back) (asks : draining.request = some (.read space))
    (reads : back.Reads space answer after) : (draining.resume 0 answer).Drains capture after := by
  have going : draining.result = none := by
    simp only [request] at asks
    split at asks
    · exact Option.isNone_iff_eq_none.1 ‹_›
    · cases asks
  obtain ⟨octets, rfl, -, passed, ends⟩ := reads.received
  cases octets with
  | nil =>
    obtain ⟨ended, rfl⟩ := ends rfl
    refine ⟨drains.receipt_eq, ?_⟩
    rintro result ⟨⟩
    exact ⟨rfl, ended⟩
  | cons octet rest =>
    refine ⟨?_, by simp [resume, going]⟩
    rw [passed, ← Receipt.record_ofOctets, ← drains.receipt_eq]
    rfl

theorem Drains.push (drains : draining.Drains capture back) (isOpen : back.isShut = false)
    (octets : Bytes) : draining.Drains capture (back.push octets) := by
  refine ⟨drains.receipt_eq, fun result isOver => ?_⟩
  have shut := (drains.ended result isOver).2.isShut
  rw [isOpen] at shut
  contradiction

theorem Drains.shut (drains : draining.Drains capture back) :
    draining.Drains capture back.shut :=
  ⟨drains.receipt_eq, fun result isOver =>
    ⟨(drains.ended result isOver).1, (drains.ended result isOver).2.shut⟩⟩

end Draining

namespace Session

variable {forth back : Pipe} {session : Session}

theorem request_cases {asked : Request} (asks : session.request = some asked) :
    (asked = .read session.room ∧ ∃ since, session.phase = .reading since) ∨
      (∃ since chunk unsent, asked = .write unsent ∧
        session.phase = .writing since chunk unsent) ∨
      asked = .shutdown ∧ ∃ result, session.phase = .closing result := by
  simp only [request] at asks
  split at asks <;> cases asks
  · exact .inl ⟨rfl, _, ‹_›⟩
  · exact .inr (.inl ⟨_, _, _, rfl, ‹_›⟩)
  · exact .inr (.inr ⟨rfl, _, ‹_›⟩)

/-- A session has been delivered what came out of one pipe, and has put into the other what was
accepted from it.  It leaves the loop only when the first pipe has ended, and the second one is shut
when it is closed. -/
structure Echoes (forth back : Pipe) (session : Session) : Prop where
  begun : session.phase ≠ .accepted
  tallies : ∃ chunks, chunks.flatten = forth.passed ∧ session.Tallies chunks back.entered
  left : ∀ result, session.phase = .closing result ∨ session.phase = .closed result →
    result = .ok () ∧ forth.Ended
  isShut_iff : back.isShut = true ↔ ∃ result, session.phase = .closed result

/-- A session that is in its loop only has to have its tallies. -/
theorem echoes_of_isInLoop
    (isInLoop : (∃ since, session.phase = .reading since) ∨
      ∃ since chunk unsent, session.phase = .writing since chunk unsent)
    (isOpen : back.isShut = false)
    (tallies : ∃ chunks, chunks.flatten = forth.passed ∧ session.Tallies chunks back.entered) :
    session.Echoes forth back := by
  obtain ⟨since, phase⟩ | ⟨since, chunk, unsent, phase⟩ := isInLoop
  · exact ⟨by simp [phase], tallies, by simp [phase], by simp [phase, isOpen]⟩
  · exact ⟨by simp [phase], tallies, by simp [phase], by simp [phase, isOpen]⟩

theorem echoes_start (settings : EchoSettings) (roomForth roomBack : Nat) :
    ((start settings).read 0).Echoes (.ofRoom roomForth) (.ofRoom roomBack) :=
  echoes_of_isInLoop (.inl ⟨0, rfl⟩) rfl ⟨[], rfl, tallies_read_start settings 0⟩

/-- The pipe back is shut only by a session that is closed, which asks for nothing. -/
theorem Echoes.isOpen {asked : Request} (echoes : session.Echoes forth back)
    (asks : session.request = some asked) : back.isShut = false := by
  cases shut : back.isShut with
  | false => rfl
  | true =>
    obtain ⟨result, phase⟩ := echoes.isShut_iff.1 shut
    simp [request, phase] at asks

theorem Echoes.read {space : Nat} {answer : Answer} {after : Pipe}
    (echoes : session.Echoes forth back) (asks : session.request = some (.read space))
    (reads : forth.Reads space answer after) : (session.resume 0 answer).Echoes after back := by
  have isOpen := echoes.isOpen asks
  obtain ⟨chunks, delivered, tallies⟩ := echoes.tallies
  obtain ⟨octets, rfl, within, passed, ends⟩ := reads.received
  have tallied := tallies.resume 0 ⟨.read space, .received octets, false⟩ asks (.delivered within)
  simp only [Poll.accepted, List.append_nil] at tallied
  obtain ⟨-, since, phase⟩ | ⟨_, _, _, other, -⟩ | ⟨other, -⟩ := request_cases asks
  · cases octets with
    | nil =>
      obtain ⟨ended, rfl⟩ := ends rfl
      simp only [Poll.chunk?, Option.toList_none, List.append_nil] at tallied
      have resumed : (session.resume 0 (.received [])).phase = .closing (.ok ()) := by
        simp only [resume, phase, leave]
      refine ⟨by simp [resumed], ⟨chunks, delivered, tallied⟩, ?_, by simp [resumed, isOpen]⟩
      rintro result (closing | closed)
      · rw [resumed] at closing
        cases closing
        exact ⟨rfl, ended⟩
      · rw [resumed] at closed
        cases closed
    | cons octet rest =>
      refine echoes_of_isInLoop (.inr ⟨0, octet :: rest, octet :: rest, ?_⟩) isOpen
        ⟨_, ?_, tallied⟩
      · simp only [resume, phase]
      · simp [Poll.chunk?, delivered, passed]
  · cases other
  · cases other

theorem wrote_isInLoop (now since : Instant) (chunk unsent : Bytes) {count : Nat}
    (moves : 0 < count) (session : Session) :
    (∃ begun, (session.wrote now since chunk unsent count).phase = .reading begun) ∨
      ∃ begun whole rest,
        (session.wrote now since chunk unsent count).phase = .writing begun whole rest := by
  rw [wrote, if_neg (Nat.pos_iff_ne_zero.1 moves)]
  split
  · exact .inl ⟨now, rfl⟩
  · exact .inr ⟨since, chunk, _, rfl⟩

theorem Echoes.write {octets : Bytes} {answer : Answer} {after : Pipe}
    (echoes : session.Echoes forth back) (asks : session.request = some (.write octets))
    (writes : back.Writes octets answer after) : (session.resume 0 answer).Echoes forth after := by
  have isOpen := echoes.isOpen asks
  obtain ⟨chunks, delivered, tallies⟩ := echoes.tallies
  cases writes with
  | part count moves offered room =>
    have tallied := tallies.resume 0 ⟨.write octets, .accepted count, false⟩ asks
      (.accepted offered)
    simp only [Poll.chunk?, Poll.accepted, Option.toList_none, List.append_nil,
      ← Pipe.entered_push] at tallied
    obtain ⟨other, -⟩ | ⟨since, chunk, unsent, -, phase⟩ | ⟨other, -⟩ := request_cases asks
    · cases other
    · refine echoes_of_isInLoop ?_ isOpen ⟨chunks, delivered, tallied⟩
      have resumed : session.resume 0 (.accepted count) =
          session.wrote 0 since chunk unsent count := by
        simp only [resume, phase]
      rw [resumed]
      exact wrote_isInLoop 0 since chunk unsent moves session
    · cases other

theorem Echoes.shutdown (echoes : session.Echoes forth back)
    (asks : session.request = some .shutdown) :
    (session.resume 0 .completed).Echoes forth back.shut := by
  obtain ⟨chunks, delivered, tallies⟩ := echoes.tallies
  have tallied := tallies.resume 0 ⟨.shutdown, .completed, false⟩ asks .shut
  simp only [Poll.chunk?, Poll.accepted, Option.toList_none, List.append_nil] at tallied
  obtain ⟨other, -⟩ | ⟨_, _, _, other, -⟩ | ⟨-, result, phase⟩ := request_cases asks
  · cases other
  · cases other
  · have resumed : (session.resume 0 .completed).phase = .closed result := by
      simp only [resume, phase]
    refine ⟨by simp [resumed], ⟨chunks, delivered, tallied⟩, ?_, by simp [resumed, Pipe.shut]⟩
    rintro other (closing | closed)
    · rw [resumed] at closing
      cases closing
    · rw [resumed] at closed
      cases closed
      exact echoes.left result (.inl phase)

/-- When the pipe back is shut, all that was delivered has gone back and the peer has closed. -/
theorem Echoes.closed (echoes : session.Echoes forth back) (isShut : back.isShut = true) :
    forth.Ended ∧ back.entered = forth.entered ∧ session.octets = forth.entered.length ∧
      session.reason = some .peerClosed := by
  obtain ⟨result, phase⟩ := echoes.isShut_iff.1 isShut
  obtain ⟨rfl, ended⟩ := echoes.left result (.inr phase)
  obtain ⟨chunks, delivered, tallies⟩ := echoes.tallies
  have all : forth.entered = forth.passed := by
    rw [Pipe.entered, ended.empty, List.append_nil]
  simp only [Tallies, phase] at tallies
  generalize reason_eq : session.reason = reason at tallies
  cases tallies with
  | peerClosed even =>
    rw [all, ← delivered]
    exact ⟨ended, even.accepted_eq, even.counts.octets_eq, rfl⟩

theorem Echoes.push (echoes : session.Echoes forth back) (isOpen : forth.isShut = false)
    (octets : Bytes) : session.Echoes (forth.push octets) back := by
  refine ⟨echoes.begun, echoes.tallies, fun result left => ?_, echoes.isShut_iff⟩
  have shut := (echoes.left result left).2.isShut
  rw [isOpen] at shut
  contradiction

theorem Echoes.shut (echoes : session.Echoes forth back) : session.Echoes forth.shut back :=
  ⟨echoes.begun, echoes.tallies, fun result left =>
    ⟨(echoes.left result left).1, (echoes.left result left).2.shut⟩, echoes.isShut_iff⟩

theorem Echoes.of_reads {space : Nat} {answer : Answer} {after : Pipe}
    (echoes : session.Echoes forth back) (reads : back.Reads space answer after) :
    session.Echoes forth after := by
  obtain ⟨begun, tallies, left, isShut_iff⟩ := echoes
  rw [← reads.isShut_eq] at isShut_iff
  rw [← reads.entered_eq] at tallies
  exact ⟨begun, tallies, left, isShut_iff⟩

end Session

end LineEcho
