import LineEcho.Bytes
import LineEcho.Stream.Script

/-!
# The streams of a connection, as scripts

`Streams` holds what each kind of operation will find: the file that is read, the two directions of
a connection, and the flushes and shutdowns of the direction that goes out. All are independent of
each other and share one clock. `Streams.await` answers one request and logs what reached the
connection.
-/

namespace LineEcho

/-- What a read finds. -/
inductive Incoming where
  | data (octets : Bytes)
  | finished
  | fails (fault : Fault)
  deriving DecidableEq, Repr

/-- What a write finds. -/
inductive Outgoing where
  | take (count : Nat)
  | fails (fault : Fault)
  deriving DecidableEq, Repr

/-- What a flush or a shutdown finds. -/
inductive Signal where
  | done
  | fails (fault : Fault)
  deriving DecidableEq, Repr

/-- What reached a connection. A write lists the octets that were accepted. -/
inductive LogEntry where
  | read (count : Nat)
  | readFault
  | write (octets : Bytes)
  | writeFault
  | flush
  | shutdown
  deriving DecidableEq, Repr

/-- What a party asks of its streams. `fetch` reads the file, all else is about the connection. -/
inductive Request where
  | fetch (room : Nat)
  | read (room : Nat)
  | write (octets : Bytes)
  | flush
  | shutdown
  deriving DecidableEq, Repr

/-- What a party is told. A write that was interrupted is one to be tried again. -/
inductive Answer where
  | received (octets : Bytes)
  | accepted (count : Nat)
  | interrupted
  | completed
  | failed (fault : Fault)
  deriving DecidableEq, Repr

/-- The answer of a stream whose script has run out: nothing more comes in, all that goes out is
accepted. -/
def Request.fallback : Request → Answer
  | fetch _ => .received []
  | read _ => .received []
  | write octets => .accepted octets.length
  | flush => .completed
  | shutdown => .completed

/-- The scripts of a connection and of the file that flows out on it, and what has reached the
connection so far.

To write all of some octets is left to a library, and its versions differ in what they do when a
write is interrupted: `retries` says whether it is tried again or fails like any other. What is
proved of runs holds either way. -/
structure Streams where
  source : Script Incoming
  incoming : Script Incoming
  outgoing : Script Outgoing
  flushes : Script Signal
  shutdowns : Script Signal
  log : Array LogEntry
  retries : Bool := true

instance : Inhabited Streams :=
  ⟨{ source := default
     incoming := default
     outgoing := default
     flushes := default
     shutdowns := default
     log := #[] }⟩

/-- A request's outcome: the answer, whether it was the deadline that gave it, the moment, and the
streams from then on. -/
structure Reply where
  answer : Answer
  late : Bool
  now : Instant
  streams : Streams

namespace Incoming

/-- The octets that a read can still deliver. -/
def cost : Incoming → Nat
  | data octets => octets.length
  | finished => 0
  | fails _ => 0

/-- Answers a read from some steps: as much of the data as there is room for, the rest of which
stays for the next read. -/
def answer (room : Nat) : List (Step Incoming) → Answer × List (Step Incoming)
  | .answer (.data octets) :: rest =>
    (.received (octets.take room),
      if (octets.drop room).isEmpty then rest else .answer (.data (octets.drop room)) :: rest)
  | .answer .finished :: rest => (.received [], rest)
  | .answer (.fails fault) :: rest => (.failed fault, rest)
  | steps => (.received [], steps)

def logged : Answer → LogEntry
  | .received octets => .read octets.length
  | _ => .readFault

end Incoming

namespace Outgoing

/-- The answer to a write that meets a fault. -/
def faultAnswer (retries : Bool) (fault : Fault) : Answer :=
  if retries ∧ fault.kind = .interrupted then .interrupted else .failed fault

/-- Answers a write from some steps, and says what of the octets was accepted. -/
def answer (retries : Bool) (octets : Bytes) : List (Step Outgoing) → Answer × List (Step Outgoing)
  | .answer (.take count) :: rest => (.accepted (min count octets.length), rest)
  | .answer (.fails fault) :: rest => (faultAnswer retries fault, rest)
  | steps => (.accepted octets.length, steps)

def logged (octets : Bytes) : Answer → LogEntry
  | .accepted count => .write (octets.take count)
  | _ => .writeFault

end Outgoing

namespace Signal

/-- Answers a flush or a shutdown from some steps. -/
def answer : List (Step Signal) → Answer × List (Step Signal)
  | .answer .done :: rest => (.completed, rest)
  | .answer (.fails fault) :: rest => (.failed fault, rest)
  | steps => (.completed, steps)

end Signal

namespace Streams

/-- Waits on one script and answers from it. A missed deadline gives the fault of an operation
without progress and leaves the wait running. -/
def awaitOn {α : Type} (script : Script α) (answer : List (Step α) → Answer × List (Step α))
    (update : Script α → Option Answer → Streams) (deadline : Option Deadline) (now : Instant) :
    Reply :=
  match script.await deadline now with
  | .expired later limit script => ⟨.failed (.noProgress limit), true, later, update script none⟩
  | .reached later steps =>
    let (given, rest) := answer steps
    ⟨given, false, later, update (.ofSteps rest) (some given)⟩

/-- The log with the entry of an answer, if there was one. -/
def logWith (log : Array LogEntry) (entry : Answer → LogEntry) (given : Option Answer) :
    Array LogEntry :=
  match given with
  | some answer => log.push (entry answer)
  | none => log

/-- Answers a request, sitting out the waits before the answer. -/
def await (deadline : Option Deadline) (now : Instant) (streams : Streams) : Request → Reply
  | .fetch room =>
    awaitOn streams.source (Incoming.answer room)
      (fun script _ => { streams with source := script }) deadline now
  | .read room =>
    awaitOn streams.incoming (Incoming.answer room)
      (fun script given =>
        { streams with incoming := script, log := logWith streams.log Incoming.logged given })
      deadline now
  | .write octets =>
    awaitOn streams.outgoing (Outgoing.answer streams.retries octets)
      (fun script given =>
        { streams with
          outgoing := script, log := logWith streams.log (Outgoing.logged octets) given })
      deadline now
  | .flush =>
    awaitOn streams.flushes Signal.answer
      (fun script given =>
        { streams with flushes := script, log := logWith streams.log (fun _ => .flush) given })
      deadline now
  | .shutdown =>
    awaitOn streams.shutdowns Signal.answer
      (fun script given =>
        { streams with shutdowns := script, log := logWith streams.log (fun _ => .shutdown) given })
      deadline now

def weight (streams : Streams) : Nat :=
  Script.weight Incoming.cost streams.source.steps +
    Script.weight Incoming.cost streams.incoming.steps +
    Script.weight (fun _ => 0) streams.outgoing.steps +
    Script.weight (fun _ => 0) streams.flushes.steps +
    Script.weight (fun _ => 0) streams.shutdowns.steps

end Streams

/-- An answer that lets a party go on without using up a script: the script has run out, or the
deadline was missed. -/
def Reply.Spent (request : Request) (reply : Reply) : Prop :=
  reply.answer = request.fallback ∨ ∃ limit, reply.answer = .failed (.noProgress limit)

theorem Incoming.weight_answer (room : Nat) (steps : List (Step Incoming)) :
    Script.weight Incoming.cost (Incoming.answer room steps).2 < Script.weight Incoming.cost steps ∨
      (Script.weight Incoming.cost (Incoming.answer room steps).2 =
          Script.weight Incoming.cost steps ∧
        (Incoming.answer room steps).1 = .received []) := by
  fun_cases Incoming.answer room steps with
  | case1 octets rest =>
    by_cases nothing : octets.take room = []
    · by_cases kept : (octets.drop room).isEmpty
      · left
        simp only [kept, if_true, Script.weight]
        omega
      · have whole : octets.drop room = octets := by
          conv => rhs; rw [← List.take_append_drop room octets, nothing]
          rfl
        simp_all
    · left
      have shorter : (octets.drop room).length < octets.length := by
        have := congrArg List.length (List.take_append_drop room octets)
        have := List.length_pos_iff.2 nothing
        simp only [List.length_append] at *
        omega
      split <;> simp only [Script.weight, Incoming.cost] <;> omega
  | case2 rest =>
    left
    simp only [Script.weight]
    omega
  | case3 fault rest =>
    left
    simp only [Script.weight]
    omega
  | case4 steps => simp

theorem Outgoing.weight_answer (retries : Bool) (octets : Bytes) (steps : List (Step Outgoing)) :
    Script.weight (fun _ => 0) (Outgoing.answer retries octets steps).2 <
        Script.weight (fun _ => 0) steps ∨
      (Script.weight (fun _ => 0) (Outgoing.answer retries octets steps).2 =
          Script.weight (fun _ => 0) steps ∧
        (Outgoing.answer retries octets steps).1 = .accepted octets.length) := by
  fun_cases Outgoing.answer retries octets steps <;> simp [Script.weight]

theorem Signal.weight_answer (steps : List (Step Signal)) :
    Script.weight (fun _ => 0) (Signal.answer steps).2 < Script.weight (fun _ => 0) steps ∨
      (Script.weight (fun _ => 0) (Signal.answer steps).2 = Script.weight (fun _ => 0) steps ∧
        (Signal.answer steps).1 = .completed) := by
  fun_cases Signal.answer steps <;> simp [Script.weight]

namespace Streams

/-- Waiting on one script and answering from it uses something up, or ends with a spent answer. -/
theorem awaitOn_progress {α : Type} (cost : α → Nat) (script : Script α)
    (answer : List (Step α) → Answer × List (Step α)) (update : Script α → Option Answer → Streams)
    (deadline : Option Deadline) (now : Instant) (others : Nat) (fallback : Answer)
    (weight_update : ∀ later given, (update later given).weight =
      Script.weight cost later.steps + others)
    (weight_answer : ∀ steps, Script.weight cost (answer steps).2 < Script.weight cost steps ∨
      (Script.weight cost (answer steps).2 = Script.weight cost steps ∧
        (answer steps).1 = fallback)) :
    (awaitOn script answer update deadline now).streams.weight <
        Script.weight cost script.steps + others ∨
      ((awaitOn script answer update deadline now).streams.weight =
          Script.weight cost script.steps + others ∧
        ((awaitOn script answer update deadline now).answer = fallback ∨
          ∃ limit, (awaitOn script answer update deadline now).answer =
            .failed (.noProgress limit))) := by
  have waited := Script.weight_awaitSteps_le cost deadline now script.steps script.due
  simp only [awaitOn, Script.await]
  split
  · rename_i arrival
    rw [arrival] at waited
    simp only [Script.Arrival.steps] at waited
    simp only [weight_update]
    rcases Nat.lt_or_eq_of_le waited with fewer | same
    · left; omega
    · right; exact ⟨by omega, .inr ⟨_, rfl⟩⟩
  · rename_i later steps arrival
    rw [arrival] at waited
    simp only [Script.Arrival.steps] at waited
    simp only [weight_update, Script.ofSteps]
    rcases weight_answer steps with fewer | ⟨same, given⟩
    · left; omega
    · rcases Nat.lt_or_eq_of_le waited with shorter | equal
      · left; omega
      · right; exact ⟨by omega, .inl given⟩

/-- Every request uses something up, or its answer is one that a party gets only a bounded number of
times in a row. -/
theorem await_progress (deadline : Option Deadline) (now : Instant) (streams : Streams)
    (request : Request) :
    (streams.await deadline now request).streams.weight < streams.weight ∨
      ((streams.await deadline now request).streams.weight = streams.weight ∧
        (streams.await deadline now request).Spent request) := by
  cases request with
  | fetch room =>
    have progress := awaitOn_progress Incoming.cost streams.source (Incoming.answer room)
      (fun script _ => { streams with source := script }) deadline now
      (streams.weight - Script.weight Incoming.cost streams.source.steps) (.received [])
      (by intro later given; simp only [weight]; omega) (Incoming.weight_answer room)
    have total : Script.weight Incoming.cost streams.source.steps +
        (streams.weight - Script.weight Incoming.cost streams.source.steps) = streams.weight := by
      simp only [weight]; omega
    rw [total] at progress
    exact progress
  | read room =>
    have progress := awaitOn_progress Incoming.cost streams.incoming (Incoming.answer room)
      (fun script given =>
        { streams with incoming := script, log := logWith streams.log Incoming.logged given })
      deadline now
      (streams.weight - Script.weight Incoming.cost streams.incoming.steps) (.received [])
      (by intro later given; simp only [weight]; omega) (Incoming.weight_answer room)
    have total : Script.weight Incoming.cost streams.incoming.steps +
        (streams.weight - Script.weight Incoming.cost streams.incoming.steps) = streams.weight := by
      simp only [weight]; omega
    rw [total] at progress
    exact progress
  | write octets =>
    have progress := awaitOn_progress (fun _ => 0) streams.outgoing
      (Outgoing.answer streams.retries octets)
      (fun script given =>
        { streams with
          outgoing := script, log := logWith streams.log (Outgoing.logged octets) given })
      deadline now
      (streams.weight - Script.weight (fun _ => 0) streams.outgoing.steps)
      (.accepted octets.length)
      (by intro later given; simp only [weight]; omega)
      (Outgoing.weight_answer streams.retries octets)
    have total : Script.weight (fun _ => 0) streams.outgoing.steps +
        (streams.weight - Script.weight (fun _ => 0) streams.outgoing.steps) = streams.weight := by
      simp only [weight]; omega
    rw [total] at progress
    exact progress
  | flush =>
    have progress := awaitOn_progress (fun _ => 0) streams.flushes Signal.answer
      (fun script given =>
        { streams with flushes := script, log := logWith streams.log (fun _ => .flush) given })
      deadline now
      (streams.weight - Script.weight (fun _ => 0) streams.flushes.steps) .completed
      (by intro later given; simp only [weight]; omega) Signal.weight_answer
    have total : Script.weight (fun _ => 0) streams.flushes.steps +
        (streams.weight - Script.weight (fun _ => 0) streams.flushes.steps) = streams.weight := by
      simp only [weight]; omega
    rw [total] at progress
    exact progress
  | shutdown =>
    have progress := awaitOn_progress (fun _ => 0) streams.shutdowns Signal.answer
      (fun script given =>
        { streams with shutdowns := script, log := logWith streams.log (fun _ => .shutdown) given })
      deadline now
      (streams.weight - Script.weight (fun _ => 0) streams.shutdowns.steps) .completed
      (by intro later given; simp only [weight]; omega) Signal.weight_answer
    have total : Script.weight (fun _ => 0) streams.shutdowns.steps +
        (streams.weight - Script.weight (fun _ => 0) streams.shutdowns.steps) = streams.weight := by
      simp only [weight]; omega
    rw [total] at progress
    exact progress

end Streams

end LineEcho
