import LineEcho.Proofs.Echo.Fidelity
import LineEcho.Proofs.Stream.Waiting
import Mathlib.Algebra.Order.Floor.Div
import Mathlib.GroupTheory.GroupAction.Ring

/-!
# The size of the buffer

A session reads no more at a time than its buffer holds, and writes that back before it reads on.
So the size of the buffer decides how often a piece that comes in is cut, and nothing else: without
limits, and with a peer who takes everything, two sessions with different buffers echo the same
octets and come to the same end for the same reason.

The two runs are not in step, as they cut the same piece in different places.  Each of them is
compared with `Incoming.flow`, which is what the script comes to for any reader.  What is left of it
after a read is `Incoming.Finds`: the rest of a piece stays in front of the others.
-/

namespace LineEcho

namespace Incoming

/-- What a script comes to for a reader: the pieces that it delivers up to its first end, and
whether this is a fault. -/
structure Flow where
  pieces : List Bytes
  result : Except Fault Unit

namespace Flow

def octets (flow : Flow) : Bytes :=
  flow.pieces.flatten

/-- The number of chunks in which the pieces are read, if there is room for so many octets. -/
def chunkCount (room : Nat) (flow : Flow) : Nat :=
  (flow.pieces.map (fun piece => piece.length ⌈/⌉ room)).sum

end Flow

/-- Waits do not count, and neither does anything after a read without octets or a fault.  A script
that has run out is at its end. -/
def flow : List (Step Incoming) → Flow
  | [] => ⟨[], .ok ()⟩
  | .wait _ :: rest => flow rest
  | .answer (.data []) :: _ => ⟨[], .ok ()⟩
  | .answer (.data (octet :: octets)) :: rest =>
    ⟨(octet :: octets) :: (flow rest).pieces, (flow rest).result⟩
  | .answer .finished :: _ => ⟨[], .ok ()⟩
  | .answer (.fails fault) :: _ => ⟨[], .error fault⟩

/-- What a read finds in a flow, given the answer to it and the flow that is left. -/
inductive Finds (room : Nat) : Flow → Answer → Flow → Prop where
  | finished {left : Flow} : Finds room ⟨[], .ok ()⟩ (.received []) left
  | failed {fault : Fault} {left : Flow} : Finds room ⟨[], .error fault⟩ (.failed fault) left
  | delivered {chunk : Bytes} {flow left : Flow} (delivers : chunk ≠ [])
      (octets_eq : flow.octets = chunk ++ left.octets)
      (count_eq : flow.chunkCount room = left.chunkCount room + 1)
      (result_eq : left.result = flow.result) : Finds room flow (.received chunk) left

theorem ceilDiv_eq_one {room count : Nat} (positive : 0 < count) (fits : count ≤ room) :
    count ⌈/⌉ room = 1 := by
  rw [Nat.ceilDiv_eq_add_pred_div]
  exact Nat.div_eq_of_lt_le (by omega) (by omega)

theorem ceilDiv_eq_succ {room count : Nat} (has_room : 0 < room) (more : room < count) :
    count ⌈/⌉ room = (count - room) ⌈/⌉ room + 1 := by
  rw [Nat.ceilDiv_eq_add_pred_div, Nat.ceilDiv_eq_add_pred_div, ← Nat.add_div_right _ has_room]
  congr 1
  omega

/-- A read takes the next piece, or as much of it as there is room for. -/
theorem finds_data {room : Nat} (has_room : 0 < room) {octets : Bytes} (delivers : octets ≠ [])
    (rest : List (Step Incoming)) :
    Finds room ⟨octets :: (flow rest).pieces, (flow rest).result⟩ (.received (octets.take room))
      (flow (if (octets.drop room).isEmpty then rest
        else .answer (.data (octets.drop room)) :: rest)) := by
  have positive := List.length_pos_iff.2 delivers
  have taken : octets.take room ≠ [] := by
    simp [delivers, Nat.pos_iff_ne_zero.1 has_room]
  -- Either the whole piece is taken, or its rest stays in front of the others.
  by_cases whole : octets.length ≤ room
  · have nothing : octets.drop room = [] := List.drop_eq_nil_iff.2 whole
    rw [nothing, List.isEmpty_nil, if_pos rfl]
    refine .delivered taken ?_ ?_ rfl
    · rw [List.take_of_length_le whole]
      rfl
    · simp only [Flow.chunkCount, List.map_cons, List.sum_cons, ceilDiv_eq_one positive whole]
      exact Nat.add_comm _ _
  · obtain ⟨octet, others, remains⟩ :=
      List.exists_cons_of_ne_nil (mt List.drop_eq_nil_iff.1 whole)
    have length_eq : (octet :: others).length = octets.length - room := by
      rw [← remains, List.length_drop]
    have count_eq := ceilDiv_eq_succ has_room (Nat.lt_of_not_le whole)
    rw [remains, List.isEmpty_cons, if_neg Bool.false_ne_true]
    refine .delivered taken ?_ ?_ rfl
    · simp only [Flow.octets, flow, List.flatten_cons, ← remains, ← List.append_assoc,
        List.take_append_drop]
    · simp only [Flow.chunkCount, flow, List.map_cons, List.sum_cons, length_eq, count_eq]
      omega

/-- What the next read finds is the beginning of what a script comes to. -/
theorem finds_answer {room : Nat} (has_room : 0 < room) (steps : List (Step Incoming)) :
    let given := answer room (Script.ready steps)
    Finds room (flow steps) given.1 (flow given.2) := by
  fun_induction flow steps with
  | case1 => exact .finished
  | case2 millis rest ih => exact ih
  | case3 rest =>
    simp only [Script.ready, answer, List.take_nil]
    exact .finished
  | case4 octet octets rest ih => exact finds_data has_room (List.cons_ne_nil _ _) rest
  | case5 rest => exact .finished
  | case6 fault rest => exact .failed

end Incoming

namespace Outgoing

/-- A write that meets this step waits, or some of its octets are accepted. -/
def Takes : Step Outgoing → Prop
  | .wait _ => True
  | .answer (.take count) => 0 < count
  | .answer (.fails _) => False

theorem answer_of_takes (retries : Bool) {steps : List (Step Outgoing)}
    (takes : ∀ step ∈ steps, Takes step) {octets : Bytes} (offers : octets ≠ []) :
    ∃ count, 0 < count ∧ (answer retries octets steps).1 = .accepted count := by
  have positive := List.length_pos_iff.2 offers
  fun_cases answer retries octets steps with
  | case1 count rest =>
    have taken : 0 < count := takes _ (List.mem_cons_self ..)
    exact ⟨_, Nat.lt_min.2 ⟨taken, positive⟩, rfl⟩
  | case2 fault rest => exact absurd (takes _ (List.mem_cons_self ..)) id
  | case3 steps => exact ⟨_, positive, rfl⟩

theorem answer_suffix (retries : Bool) (octets : Bytes) (steps : List (Step Outgoing)) :
    (answer retries octets steps).2 <:+ steps := by
  fun_cases answer retries octets steps with
  | case1 count rest => exact List.suffix_cons _ _
  | case2 fault rest => exact List.suffix_cons _ _
  | case3 steps => exact List.suffix_refl steps

end Outgoing

/-- The reason for which a session leaves its loop when reading has come to its end. -/
def CloseReason.ofReading : Except Fault Unit → CloseReason
  | .ok _ => .peerClosed
  | .error fault => .readFailed fault.text

namespace Session

open Incoming (Flow flow Finds finds_answer)
open Outgoing (Takes answer_of_takes answer_suffix)

/-- What was delivered so far, and what is left. -/
structure Awaits (room : Nat) (total left : Flow) (chunks : List Bytes) : Prop where
  octets_eq : total.octets = chunks.flatten ++ left.octets
  count_eq : total.chunkCount room = chunks.length + left.chunkCount room
  result_eq : left.result = total.result

/-- All was delivered, and the loop was left for what came then. -/
structure HasRead (room : Nat) (total : Flow) (chunks : List Bytes) (reason : Option CloseReason)
    (result : Except Fault Unit) : Prop where
  octets_eq : total.octets = chunks.flatten
  count_eq : total.chunkCount room = chunks.length
  result_eq : result = total.result
  reason_eq : reason = some (.ofReading total.result)

/-- How far a session has come with what its script comes to, phase by phase. -/
def Reads (total left : Flow) (chunks : List Bytes) (session : Session) : Prop :=
  match session.phase with
  | .accepted => False
  | .reading _ => Awaits session.room total left chunks
  | .writing _ _ _ => Awaits session.room total left chunks
  | .closing result => HasRead session.room total chunks session.reason result
  | .closed result => HasRead session.room total chunks session.reason result

theorem room_pos (session : Session) : 0 < session.room :=
  Nat.lt_of_lt_of_le Nat.zero_lt_one (Nat.le_max_right _ _)

section Answers

variable {room : Nat} {total left next : Flow} {chunks : List Bytes} {session : Session}

theorem Awaits.hasRead {result : Except Fault Unit}
    (awaits : Awaits room total ⟨[], result⟩ chunks) :
    HasRead room total chunks (some (.ofReading result)) result where
  octets_eq := awaits.octets_eq.trans (List.append_nil _)
  count_eq := awaits.count_eq
  result_eq := awaits.result_eq
  reason_eq := congrArg (some ∘ CloseReason.ofReading) awaits.result_eq

theorem Awaits.deliver {chunk : Bytes} (awaits : Awaits room total left chunks)
    (octets_eq : left.octets = chunk ++ next.octets)
    (count_eq : left.chunkCount room = next.chunkCount room + 1)
    (result_eq : next.result = left.result) : Awaits room total next (chunks ++ [chunk]) where
  octets_eq := by
    rw [awaits.octets_eq, octets_eq, List.flatten_append, List.flatten_singleton, List.append_assoc]
  count_eq := by
    rw [awaits.count_eq, count_eq, List.length_append, List.length_singleton]
    omega
  result_eq := result_eq.trans awaits.result_eq

/-- A session goes on with what it finds, or leaves its loop for it. -/
theorem Reads.read {since : Instant} (phase : session.phase = .reading since)
    (reads : session.Reads total left chunks) {answer : Answer}
    (finds : Finds session.room left answer next) (now : Instant) (late : Bool) :
    (session.resume now answer).Reads total next
      (chunks ++ (Poll.chunk? ⟨.read session.room, answer, late⟩).toList) := by
  obtain ⟨settings, _, octets, count, reason⟩ := session
  obtain rfl := phase
  have awaits : Awaits _ total left chunks := reads
  cases finds with
  | finished =>
    simp only [Poll.chunk?, Option.toList_none, List.append_nil]
    exact awaits.hasRead
  | failed =>
    simp only [Poll.chunk?, Option.toList_none, List.append_nil]
    exact awaits.hasRead
  | @delivered chunk _ _ delivers octets_eq count_eq result_eq =>
    obtain ⟨octet, others, rfl⟩ := List.exists_cons_of_ne_nil delivers
    exact awaits.deliver octets_eq count_eq result_eq

theorem Reads.write {since : Instant} {chunk unsent : Bytes}
    (phase : session.phase = .writing since chunk unsent) (reads : session.Reads total left chunks)
    {count : Nat} (positive : 0 < count) (now : Instant) :
    (session.resume now (.accepted count)).Reads total left chunks := by
  obtain ⟨settings, _, octets, chunkCount, reason⟩ := session
  obtain rfl := phase
  have awaits : Awaits _ total left chunks := reads
  simp only [resume, wrote, if_neg (Nat.pos_iff_ne_zero.1 positive)]
  split
  · exact awaits
  · exact awaits

theorem Reads.close {result : Except Fault Unit} (phase : session.phase = .closing result)
    (reads : session.Reads total left chunks) (answer : Answer) (now : Instant) :
    (session.resume now answer).Reads total next chunks := by
  obtain ⟨settings, _, octets, count, reason⟩ := session
  obtain rfl := phase
  exact reads

theorem HasRead.even {accepted : Bytes} {octets count : Nat} {reason : Option CloseReason}
    {result : Except Fault Unit} (hasRead : HasRead room total chunks reason result)
    (left : LeftWith chunks accepted octets count reason result) :
    Even chunks accepted octets count := by
  cases left with
  | peerClosed even => exact even
  | readFailed fault even => exact even
  | writeFailed fault behind =>
    -- The loop was left for what reading came to, so not for this.
    have reason_eq := Option.some.inj hasRead.reason_eq
    cases result_eq : total.result with
    | ok done =>
      rw [result_eq] at reason_eq
      contradiction
    | error fault =>
      rw [result_eq] at reason_eq
      contradiction

end Answers

/-- A session without limits whose peer takes everything, and what it has been delivered. -/
structure Reading (bufferSize : Nat) (total : Flow) (progress : Progress Session)
    (past : List Poll) : Prop where
  settings_eq : progress.state.settings = ⟨bufferSize, none, none⟩
  takes : ∀ step ∈ progress.streams.outgoing.steps, Takes step
  tallies : progress.state.Tallies (deliveredChunks past) (acceptedOctets past)
  reads : progress.state.Reads total (flow progress.streams.incoming.steps) (deliveredChunks past)

section Reading

variable {bufferSize : Nat} {total : Flow} {progress : Progress Session} {past : List Poll}

theorem Reading.deadline_eq (reading : Reading bufferSize total progress past) :
    progress.state.deadline = none := by
  unfold deadline
  rw [reading.settings_eq]
  split <;> rfl

/-- What an answer leaves to be shown of a session that goes on reading. -/
theorem Reading.next {asked : Request} (reading : Reading bufferSize total progress past)
    (asks : machine.request progress.state = some asked)
    (takes : ∀ step ∈ (machine.advance progress asked).streams.outgoing.steps, Takes step)
    (reads : (machine.advance progress asked).state.Reads total
      (flow (machine.advance progress asked).streams.incoming.steps)
      (deliveredChunks (past ++ [machine.poll progress asked]))) :
    Reading bufferSize total (machine.advance progress asked)
      (past ++ [machine.poll progress asked]) where
  settings_eq := (settings_resume _ _ _).trans reading.settings_eq
  takes := takes
  tallies := by
    rw [deliveredChunks_concat, acceptedOctets_concat]
    exact Tallies.resume _ _ reading.tallies asks (Streams.await_fits _ _ _ _)
  reads := reads

theorem Reading.advance {asked : Request} (reading : Reading bufferSize total progress past)
    (asks : machine.request progress.state = some asked) :
    Reading bufferSize total (machine.advance progress asked)
      (past ++ [machine.poll progress asked]) := by
  have unlimited : machine.deadline progress.state = none := reading.deadline_eq
  have tallies := reading.tallies
  have reads := reading.reads
  have asks' : progress.state.request = some asked := asks
  -- Each phase asks for one thing, which concerns one of the scripts.
  cases phase : progress.state.phase with
  | accepted => simp [request, phase] at asks'
  | closed result => simp [request, phase] at asks'
  | reading since =>
    obtain rfl : .read progress.state.room = asked := by simpa [request, phase] using asks'
    obtain ⟨later, log, reply⟩ :=
      Streams.await_read progress.now progress.streams progress.state.room
    refine reading.next asks ?_ ?_
    · simp only [Machine.advance, unlimited, reply]
      exact reading.takes
    · simp only [Machine.advance, Machine.poll, unlimited, reply, deliveredChunks_concat]
      exact reads.read phase (finds_answer (room_pos _) _) later false
  | writing since chunk unsent =>
    obtain rfl : .write unsent = asked := by simpa [request, phase] using asks'
    obtain ⟨later, log, reply⟩ := Streams.await_write progress.now progress.streams unsent
    simp only [Tallies, phase] at tallies
    have suffix := Script.ready_suffix progress.streams.outgoing.steps
    have takes : ∀ step ∈ Script.ready progress.streams.outgoing.steps, Takes step :=
      fun step member => reading.takes step (suffix.mem member)
    refine reading.next asks ?_ ?_
    · simp only [Machine.advance, unlimited, reply]
      exact fun step member => takes step ((answer_suffix _ _ _).mem member)
    · obtain ⟨count, positive, given⟩ :=
        answer_of_takes progress.streams.retries takes tallies.unsent_ne_nil
      simp only [Machine.advance, Machine.poll, unlimited, reply, given, deliveredChunks_concat,
        Poll.chunk?, Option.toList_none, List.append_nil]
      exact reads.write phase positive later
  | closing result =>
    obtain rfl : .shutdown = asked := by simpa [request, phase] using asks'
    obtain ⟨given, later, shutdowns, log, reply⟩ :=
      Streams.await_shutdown progress.now progress.streams
    refine reading.next asks ?_ ?_
    · simp only [Machine.advance, unlimited, reply]
      exact reading.takes
    · simp only [Machine.advance, Machine.poll, unlimited, reply, deliveredChunks_concat,
        Poll.chunk?, Option.toList_none, List.append_nil]
      exact reads.close phase given later

end Reading

section Run

variable (now : Instant) {streams : Streams} (takes : ∀ step ∈ streams.outgoing.steps, Takes step)

include takes

theorem run_reading (bufferSize : Nat) :
    let settings : EchoSettings := ⟨bufferSize, none, none⟩
    Reading bufferSize (flow streams.incoming.steps)
      (machine.finish ⟨now, (start settings).read now, streams, false⟩)
      (polls settings now streams) := by
  intro settings
  have begins : Reading bufferSize (flow streams.incoming.steps)
      ⟨now, (start settings).read now, streams, false⟩ [] :=
    { settings_eq := rfl
      takes := takes
      tallies := tallies_read_start settings now
      reads :=
        { octets_eq := rfl
          count_eq := (Nat.zero_add _).symm
          result_eq := rfl } }
  exact machine.finish_polls_invariant (Reading bufferSize (flow streams.incoming.steps))
    (fun progress past asked asks reading => reading.advance asks) _ [] begins

/-- A session comes to what its script comes to, with as many chunks as its buffer makes of it. -/
theorem run_eq_flow (bufferSize : Nat) :
    let run := (start ⟨bufferSize, none, none⟩).run now streams
    let total := flow streams.incoming.steps
    run.result = total.result ∧
      run.session.summary = ⟨total.octets.length, total.chunkCount (max bufferSize 1),
        some (.ofReading total.result)⟩ ∧
      writtenOctets run.streams.log.toList =
        writtenOctets streams.log.toList ++ total.octets := by
  intro run total
  let settings : EchoSettings := ⟨bufferSize, none, none⟩
  let chunks := deliveredChunks (polls settings now streams)
  let accepted := acceptedOctets (polls settings now streams)
  obtain ⟨settings_eq, -, tallies, reads⟩ := run_reading now takes bufferSize
  obtain ⟨-, -, result, phase⟩ := run_tallies_settled settings now streams
  have phase : run.session.phase = .closed result := phase
  have room_eq : run.session.room = max bufferSize 1 :=
    congrArg (fun settings => max settings.bufferSize 1) settings_eq
  have tallies : run.session.Tallies chunks accepted := tallies
  have reads : run.session.Reads total _ chunks := reads
  -- The run has been closed, so both say what it was closed with.
  simp only [Tallies, phase] at tallies
  simp only [Reads, phase, room_eq] at reads
  have even := reads.even tallies
  have octets_eq : accepted = total.octets := even.accepted_eq.trans reads.octets_eq.symm
  refine ⟨?_, ?_, ?_⟩
  · have result_eq : run.result = result := by
      show run.session.result = result
      rw [Session.result, phase]
    exact result_eq.trans reads.result_eq
  · have count_eq := even.octets_eq
    have chunks_eq := even.counts.count_eq
    rw [octets_eq] at count_eq
    rw [← reads.count_eq] at chunks_eq
    rw [summary, reads.reason_eq]
    exact congrArg₂ (Summary.mk · · _) count_eq chunks_eq
  · rw [← octets_eq]
    exact machine.writtenOctets_finish _

/-- **The size of the buffer.**  Without limits, and with a peer who takes everything, sessions with
buffers of whatever sizes come to the same result for the same reason, and have echoed the same
octets and counted as many of them: all that came in before the first end or fault, which is what
they come to.  Only the number of chunks depends on the buffer: each piece is cut into as many as it
takes to fit them in. -/
theorem buffer_size_unobservable (bufferSize other : Nat) :
    let run := (start ⟨bufferSize, none, none⟩).run now streams
    let beside := (start ⟨other, none, none⟩).run now streams
    let total := flow streams.incoming.steps
    run.result = beside.result ∧
      run.session.summary.reason = beside.session.summary.reason ∧
      run.session.summary.octets = beside.session.summary.octets ∧
      writtenOctets run.streams.log.toList = writtenOctets beside.streams.log.toList ∧
      run.result = total.result ∧
      run.session.summary.reason = some (.ofReading total.result) ∧
      run.session.summary.octets = total.pieces.flatten.length ∧
      writtenOctets run.streams.log.toList =
        writtenOctets streams.log.toList ++ total.pieces.flatten ∧
      run.session.summary.chunks =
        (total.pieces.map (fun piece => piece.length ⌈/⌉ max bufferSize 1)).sum := by
  intro run beside total
  obtain ⟨result_eq, summary_eq, written_eq⟩ := run_eq_flow now takes bufferSize
  obtain ⟨otherResult, otherSummary, otherWritten⟩ := run_eq_flow now takes other
  refine ⟨result_eq.trans otherResult.symm, ?_, ?_, written_eq.trans otherWritten.symm, result_eq,
    congrArg Summary.reason summary_eq, congrArg Summary.octets summary_eq, written_eq,
    congrArg Summary.chunks summary_eq⟩
  · exact (congrArg Summary.reason summary_eq).trans (congrArg Summary.reason otherSummary).symm
  · exact (congrArg Summary.octets summary_eq).trans (congrArg Summary.octets otherSummary).symm

end Run

/-- A piece of five octets and one of a single octet before the connection is reset, for a peer who
takes his time. -/
def resetAfterPieces : Streams :=
  { (default : Streams) with
    incoming := .ofSteps [.answer (.data [1, 2, 3, 4, 5]), .wait 10, .answer (.data [6]),
      .answer (.fails ⟨.connectionReset, "reset"⟩)]
    outgoing := .ofSteps [.wait 5, .answer (.take 1), .wait 5] }

theorem buffer_size_unobservable_reset :
    (∀ step ∈ resetAfterPieces.outgoing.steps, Takes step) ∧
      let run := (start ⟨2, none, none⟩).run 0 resetAfterPieces
      let beside := (start ⟨0, none, none⟩).run 0 resetAfterPieces
      run.result = .error ⟨.connectionReset, "reset"⟩ ∧ run.result = beside.result ∧
        run.session.summary.reason = some (.readFailed "reset") ∧
        writtenOctets run.streams.log.toList = [1, 2, 3, 4, 5, 6] ∧
        writtenOctets run.streams.log.toList = writtenOctets beside.streams.log.toList ∧
        run.session.summary.chunks = 4 ∧ beside.session.summary.chunks = 6 := by
  have takes : ∀ step ∈ resetAfterPieces.outgoing.steps, Takes step := by
    simp [resetAfterPieces, Script.ofSteps, Takes]
  obtain ⟨same, -, -, together, result, reason, -, written, chunks⟩ :=
    buffer_size_unobservable 0 takes 2 0
  obtain ⟨-, -, -, -, -, -, -, -, otherChunks⟩ := buffer_size_unobservable 0 takes 0 2
  exact ⟨takes, result, same, reason, written, together, chunks, otherChunks⟩

end Session

end LineEcho
