import LineEcho.Stream.Machine

/-!
# Transcripts of runs

The state that a run ends in forgets the requests that led there.  The transcript of a run keeps
them, each with its answer, so that what was offered, accepted and delivered can be compared.  It is
finer than the log of the connection, and the log can be read off it.

An invariant of a machine together with its transcript is shown once for a single answer, and
`Machine.finish_polls_invariant` carries it through a whole run.  Two of them hold of any machine:
the log grows by the entries of the transcript, and what the reads deliver is what the script of the
connection holds, in its order.
-/

namespace LineEcho

/-- The answers that a request can get: no read fills more than its room, and no write accepts more
than it was offered. -/
inductive Answer.Fits : Request → Answer → Prop where
  | fetched {room : Nat} {octets : Bytes} (within : octets.length ≤ room) :
      Fits (.fetch room) (.received octets)
  | delivered {room : Nat} {octets : Bytes} (within : octets.length ≤ room) :
      Fits (.read room) (.received octets)
  | accepted {octets : Bytes} {count : Nat} (within : count ≤ octets.length) :
      Fits (.write octets) (.accepted count)
  | interrupted {octets : Bytes} : Fits (.write octets) .interrupted
  | flushed : Fits .flush .completed
  | shut : Fits .shutdown .completed
  | failed {asked : Request} {fault : Fault} : Fits asked (.failed fault)

theorem Incoming.answer_received_or_failed (room : Nat) (steps : List (Step Incoming)) :
    (∃ octets, octets.length ≤ room ∧ (Incoming.answer room steps).1 = .received octets) ∨
      ∃ fault, (Incoming.answer room steps).1 = .failed fault := by
  fun_cases Incoming.answer room steps with
  | case1 octets rest => exact .inl ⟨_, List.length_take_le _ _, rfl⟩
  | case2 rest => exact .inl ⟨[], Nat.zero_le _, rfl⟩
  | case3 fault rest => exact .inr ⟨fault, rfl⟩
  | case4 steps => exact .inl ⟨[], Nat.zero_le _, rfl⟩

theorem Outgoing.answer_fits (retries : Bool) (octets : Bytes) (steps : List (Step Outgoing)) :
    Answer.Fits (.write octets) (Outgoing.answer retries octets steps).1 := by
  fun_cases Outgoing.answer retries octets steps with
  | case1 count rest => exact .accepted (Nat.min_le_right _ _)
  | case2 fault rest =>
    unfold faultAnswer
    split
    · exact .interrupted
    · exact .failed
  | case3 steps => exact .accepted (Nat.le_refl _)

theorem Signal.answer_completed_or_failed (steps : List (Step Signal)) :
    (Signal.answer steps).1 = .completed ∨ ∃ fault, (Signal.answer steps).1 = .failed fault := by
  fun_cases Signal.answer steps <;> simp

namespace Streams

theorem awaitOn_cases {α : Type} (script : Script α)
    (answer : List (Step α) → Answer × List (Step α)) (update : Script α → Option Answer → Streams)
    (deadline : Option Deadline) (now : Instant) :
    (∃ later limit left, awaitOn script answer update deadline now =
        ⟨.failed (.noProgress limit), true, later, update left none⟩) ∨
      ∃ later steps, awaitOn script answer update deadline now =
        ⟨(answer steps).1, false, later,
          update (.ofSteps (answer steps).2) (some (answer steps).1)⟩ := by
  simp only [awaitOn]
  split
  · exact .inl ⟨_, _, _, rfl⟩
  · exact .inr ⟨_, _, rfl⟩

theorem answer_awaitOn {α : Type} {asked : Request} {script : Script α}
    {answer : List (Step α) → Answer × List (Step α)} {update : Script α → Option Answer → Streams}
    {deadline : Option Deadline} {now : Instant}
    (fits : ∀ steps, Answer.Fits asked (answer steps).1) :
    Answer.Fits asked (awaitOn script answer update deadline now).answer := by
  rcases awaitOn_cases script answer update deadline now with
    ⟨later, limit, left, reply⟩ | ⟨later, steps, reply⟩
  · rw [reply]; exact .failed
  · rw [reply]; exact fits steps

theorem await_fits (deadline : Option Deadline) (now : Instant) (streams : Streams)
    (asked : Request) : Answer.Fits asked (streams.await deadline now asked).answer := by
  cases asked with
  | fetch room =>
    refine answer_awaitOn (fun steps => ?_)
    rcases Incoming.answer_received_or_failed room steps with
      ⟨octets, within, given⟩ | ⟨fault, given⟩
    · rw [given]; exact .fetched within
    · rw [given]; exact .failed
  | read room =>
    refine answer_awaitOn (fun steps => ?_)
    rcases Incoming.answer_received_or_failed room steps with
      ⟨octets, within, given⟩ | ⟨fault, given⟩
    · rw [given]; exact .delivered within
    · rw [given]; exact .failed
  | write octets => exact answer_awaitOn (Outgoing.answer_fits streams.retries octets)
  | flush =>
    refine answer_awaitOn (fun steps => ?_)
    rcases Signal.answer_completed_or_failed steps with given | ⟨fault, given⟩
    · rw [given]; exact .flushed
    · rw [given]; exact .failed
  | shutdown =>
    refine answer_awaitOn (fun steps => ?_)
    rcases Signal.answer_completed_or_failed steps with given | ⟨fault, given⟩
    · rw [given]; exact .shut
    · rw [given]; exact .failed

end Streams

/-- One request of a run and its answer.  A late one was cut off by its deadline, which answered in
the place of the stream. -/
structure Poll where
  asked : Request
  answer : Answer
  late : Bool
  deriving DecidableEq, Repr

namespace Poll

/-- The entry of a poll in the log.  Nothing is logged of a fetch, which does not concern the
connection, and of a poll that the stream did not answer. -/
def entry (poll : Poll) : Option LogEntry :=
  if poll.late then none
  else
    match poll.asked with
    | .fetch _ => none
    | .read _ => some (Incoming.logged poll.answer)
    | .write octets => some (Outgoing.logged octets poll.answer)
    | .flush => some .flush
    | .shutdown => some .shutdown

theorem entry_shutdown {poll : Poll} (shuts : poll.asked = .shutdown) (inTime : poll.late = false) :
    poll.entry = some .shutdown := by
  simp [entry, shuts, inTime]

theorem entry_ne_shutdown {poll : Poll} (other : poll.asked ≠ .shutdown) :
    poll.entry ≠ some .shutdown := by
  obtain ⟨asked, answer, late⟩ := poll
  unfold entry
  split
  · simp
  · cases asked with
    | shutdown => exact absurd rfl other
    | fetch room => simp
    | read room => cases answer <;> simp [Incoming.logged]
    | write octets => cases answer <;> simp [Outgoing.logged]
    | flush => simp

theorem entry_ne_write {poll : Poll} (other : ∀ octets, poll.asked ≠ .write octets)
    (accepted : Bytes) : poll.entry ≠ some (.write accepted) := by
  obtain ⟨asked, answer, late⟩ := poll
  unfold entry
  split
  · simp
  · cases asked with
    | write octets => exact absurd rfl (other octets)
    | fetch room => simp
    | read room => cases answer <;> simp [Incoming.logged]
    | flush => simp
    | shutdown => simp

/-- The octets that a write offers. -/
def offered? (poll : Poll) : Option Bytes :=
  match poll.asked with
  | .write octets => some octets
  | _ => none

/-- The octets that a write accepted. -/
def accepted (poll : Poll) : Bytes :=
  match poll.asked, poll.answer with
  | .write octets, .accepted count => octets.take count
  | _, _ => []

/-- The chunk that a read of the connection delivered, if it is not empty. -/
def chunk? (poll : Poll) : Option Bytes :=
  match poll.asked, poll.answer with
  | .read _, .received (octet :: octets) => some (octet :: octets)
  | _, _ => none

/-- Whether a poll is a read of no octets, by which the other side announces its end. -/
def isEnd (poll : Poll) : Bool :=
  match poll.asked, poll.answer with
  | .read _, .received [] => true
  | _, _ => false

/-- The fault with which a poll ends an operation, if it does.  A write that accepts nothing is a
failure too. -/
def fault? (poll : Poll) : Option Fault :=
  match poll.asked, poll.answer with
  | _, .failed fault => some fault
  | .write _, .accepted 0 => some .writeZero
  | _, _ => none

/-- The fault of a poll that is a write. -/
def writeFault? (poll : Poll) : Option Fault :=
  match poll.asked with
  | .write _ => poll.fault?
  | _ => none

theorem fault?_of_accepted {octets : Bytes} {count : Nat} {late : Bool} (moves : count ≠ 0) :
    fault? ⟨.write octets, .accepted count, late⟩ = none := by
  cases count with
  | zero => exact absurd rfl moves
  | succ count => rfl

/-- A poll after which there is more to do: nothing failed, and the other side has not come to its
end. -/
structure GoesOn (poll : Poll) : Prop where
  notEnd : poll.isEnd = false
  noFault : poll.fault? = none

/-- Whether a poll accepted all that it was offered, if it was a write. -/
def isWhole (poll : Poll) : Bool :=
  match poll.asked with
  | .write octets => poll.answer == .accepted octets.length
  | _ => true

end Poll

/-- What holds of the polls so far and of the next one holds of all of them. -/
theorem forall_polls_concat {holds : Poll → Prop} {past : List Poll} {poll : Poll}
    (before : ∀ earlier ∈ past, holds earlier) (now : holds poll) :
    ∀ other ∈ past ++ [poll], holds other := by
  intro other member
  rcases List.mem_append.1 member with earlier | last
  · exact before other earlier
  · rw [List.mem_singleton.1 last]
    exact now

/-- The octets that were accepted in a transcript. -/
def acceptedOctets (polls : List Poll) : Bytes :=
  polls.flatMap Poll.accepted

/-- The octets that were accepted according to an entry of the log. -/
def LogEntry.octets : LogEntry → Bytes
  | .write octets => octets
  | _ => []

/-- The octets that were written according to a part of the log. -/
def writtenOctets (entries : List LogEntry) : Bytes :=
  entries.flatMap LogEntry.octets

@[simp]
theorem writtenOctets_append (first second : List LogEntry) :
    writtenOctets (first ++ second) = writtenOctets first ++ writtenOctets second :=
  List.flatMap_append

/-- The chunks that were delivered in a transcript. -/
def deliveredChunks (polls : List Poll) : List Bytes :=
  polls.filterMap Poll.chunk?

/-- The octets that were delivered in a transcript. -/
def deliveredOctets (polls : List Poll) : Bytes :=
  (deliveredChunks polls).flatten

@[simp]
theorem acceptedOctets_concat (past : List Poll) (poll : Poll) :
    acceptedOctets (past ++ [poll]) = acceptedOctets past ++ poll.accepted := by
  simp [acceptedOctets]

@[simp]
theorem deliveredChunks_concat (past : List Poll) (poll : Poll) :
    deliveredChunks (past ++ [poll]) = deliveredChunks past ++ poll.chunk?.toList := by
  cases chunk : poll.chunk? <;> simp [deliveredChunks, chunk]

namespace Machine

variable {σ : Type} (machine : Machine σ)

/-- One request of a run with its answer. -/
def poll (progress : Progress σ) (asked : Request) : Poll :=
  let reply := progress.streams.await (machine.deadline progress.state) progress.now asked
  ⟨asked, reply.answer, reply.late⟩

/-- The transcript of a run up to its end. -/
def polls (progress : Progress σ) : List Poll :=
  match _asks : machine.request progress.state with
  | none => []
  | some asked => machine.poll progress asked :: polls (machine.advance progress asked)
termination_by (progress.streams.weight, machine.rank progress.state)
decreasing_by exact machine.advance_decreases progress asked ‹_›

/-- What answering a request keeps of a run and its transcript so far, the whole run keeps. -/
theorem finish_polls_invariant (holds : Progress σ → List Poll → Prop)
    (keeps : ∀ progress past asked, machine.request progress.state = some asked →
      holds progress past →
      holds (machine.advance progress asked) (past ++ [machine.poll progress asked]))
    (progress : Progress σ) (past : List Poll) (start : holds progress past) :
    holds (machine.finish progress) (past ++ machine.polls progress) := by
  fun_induction polls machine progress generalizing past with
  | case1 progress asks =>
    rw [machine.finish_of_request_eq_none asks, List.append_nil]
    exact start
  | case2 progress asked asks ih =>
    rw [machine.finish_of_request_eq_some asks, List.append_cons]
    exact ih _ (keeps progress past asked asks start)

theorem log_advance (progress : Progress σ) (asked : Request) :
    (machine.advance progress asked).streams.log.toList =
      progress.streams.log.toList ++ (machine.poll progress asked).entry.toList := by
  simp only [advance, poll]
  cases asked <;> simp only [Streams.await]
  all_goals
    rcases Streams.awaitOn_cases _ _ _ (machine.deadline progress.state) progress.now with
      ⟨later, limit, left, reply⟩ | ⟨later, steps, reply⟩
    · rw [reply]; simp [Poll.entry, Streams.logWith]
    · rw [reply]; simp [Poll.entry, Streams.logWith]

/-- The log has what a write accepted. -/
theorem writtenOctets_entry (progress : Progress σ) (asked : Request) :
    writtenOctets (machine.poll progress asked).entry.toList =
      (machine.poll progress asked).accepted := by
  simp only [poll]
  cases asked with
  | write octets =>
    simp only [Streams.await]
    rcases Streams.awaitOn_cases _ _ _ (machine.deadline progress.state) progress.now with
      ⟨later, limit, left, reply⟩ | ⟨later, steps, reply⟩
    · rw [reply]
      rfl
    · rw [reply]
      cases (Outgoing.answer progress.streams.retries octets steps).1 <;>
        simp [Poll.entry, Poll.accepted, Outgoing.logged, writtenOctets, LogEntry.octets]
  | fetch room => cases (progress.streams.await _ _ (.fetch room)).late <;> rfl
  | read room =>
    cases late : (progress.streams.await _ _ (.read room)).late <;>
      cases answer : (progress.streams.await _ _ (.read room)).answer <;> rfl
  | flush => cases (progress.streams.await _ _ .flush).late <;> rfl
  | shutdown => cases (progress.streams.await _ _ .shutdown).late <;> rfl

/-- The log that a run leaves is the log that it found, followed by the entries of its
transcript. -/
theorem log_finish (progress : Progress σ) :
    (machine.finish progress).streams.log.toList =
      progress.streams.log.toList ++ (machine.polls progress).filterMap Poll.entry := by
  fun_induction polls machine progress with
  | case1 progress asks => rw [machine.finish_of_request_eq_none asks]; simp
  | case2 progress asked asks ih =>
    rw [machine.finish_of_request_eq_some asks, ih, log_advance]
    cases logged : (machine.poll progress asked).entry with
    | none => simp [logged]
    | some entry => simp [logged]

/-- A run adds to the written octets those that its transcript accepted. -/
theorem writtenOctets_finish (progress : Progress σ) :
    writtenOctets (machine.finish progress).streams.log.toList =
      writtenOctets progress.streams.log.toList ++ acceptedOctets (machine.polls progress) := by
  fun_induction polls machine progress with
  | case1 progress asks =>
    rw [machine.finish_of_request_eq_none asks, acceptedOctets, List.flatMap_nil, List.append_nil]
  | case2 progress asked asks ih =>
    rw [machine.finish_of_request_eq_some asks, ih, log_advance, writtenOctets_append,
      writtenOctets_entry, List.append_assoc]
    rfl

end Machine

/-- All the octets that the steps of a script have to deliver. -/
def Incoming.payload (steps : List (Step Incoming)) : Bytes :=
  steps.flatMap fun
    | .answer (.data octets) => octets
    | _ => []

namespace Incoming

/-- The octets of an answer. -/
def octetsOf : Answer → Bytes
  | .received octets => octets
  | _ => []

/-- What a read does not deliver stays for the next one. -/
theorem payload_answer (room : Nat) (steps : List (Step Incoming)) :
    octetsOf (answer room steps).1 ++ payload (answer room steps).2 = payload steps := by
  fun_cases answer room steps with
  | case1 octets rest =>
    by_cases nothing : octets.drop room = []
    · have whole : octets.take room = octets :=
        List.take_of_length_le (List.drop_eq_nil_iff.1 nothing)
      simp [payload, octetsOf, nothing, whole]
    · simp [payload, octetsOf, nothing, ← List.append_assoc]
  | case2 rest => rfl
  | case3 fault rest => rfl
  | case4 steps => rfl

theorem payload_awaitSteps (deadline : Option Deadline) (now : Instant)
    (steps : List (Step Incoming)) (due : Option Instant) :
    payload (Script.awaitSteps deadline now steps due).steps = payload steps := by
  fun_induction Script.awaitSteps deadline now steps due with
  | case1 now millis rest due passed ih => exact ih
  | case2 now millis rest due passed bound missed => rfl
  | case3 now millis rest due passed missed ih => exact ih
  | case4 now steps due noWait => rfl

end Incoming

namespace Machine

variable {σ : Type} (machine : Machine σ)

theorem payload_advance (progress : Progress σ) (asked : Request) :
    (machine.poll progress asked).chunk?.toList.flatten ++
        Incoming.payload (machine.advance progress asked).streams.incoming.steps =
      Incoming.payload progress.streams.incoming.steps := by
  simp only [advance, poll]
  cases asked with
  | read room =>
    have waited := Incoming.payload_awaitSteps (machine.deadline progress.state) progress.now
      progress.streams.incoming.steps progress.streams.incoming.due
    simp only [Streams.await, Streams.awaitOn, Script.await]
    split
    · rename_i later limit left arrival
      rw [arrival] at waited
      simpa [Poll.chunk?, Script.Arrival.steps] using waited
    · rename_i later steps arrival
      rw [arrival] at waited
      have split := Incoming.payload_answer room steps
      rw [← waited]
      simp only [Script.Arrival.steps, Script.ofSteps, ← split]
      congr 1
      cases (Incoming.answer room steps).1 with
      | received octets => cases octets <;> simp [Poll.chunk?, Incoming.octetsOf]
      | accepted count => rfl
      | interrupted => rfl
      | completed => rfl
      | failed fault => rfl
  | fetch _ | write _ | flush | shutdown =>
    simp only [Streams.await]
    rcases Streams.awaitOn_cases _ _ _ (machine.deadline progress.state) progress.now with
      ⟨later, limit, left, reply⟩ | ⟨later, steps, reply⟩
    · rw [reply]; rfl
    · rw [reply]; rfl

/-- What the script of the connection had to deliver at first is what a run was delivered and what
the script has to deliver after it. -/
theorem payload_finish (progress : Progress σ) :
    deliveredOctets (machine.polls progress) ++
        Incoming.payload (machine.finish progress).streams.incoming.steps =
      Incoming.payload progress.streams.incoming.steps := by
  fun_induction polls machine progress with
  | case1 progress asks => rw [machine.finish_of_request_eq_none asks]; rfl
  | case2 progress asked asks ih =>
    rw [machine.finish_of_request_eq_some asks, ← machine.payload_advance progress asked, ← ih,
      ← List.append_assoc]
    congr 1
    cases chunk : (machine.poll progress asked).chunk? <;>
      simp [deliveredOctets, deliveredChunks, chunk]

end Machine

end LineEcho
