import LineEcho.Echo.CloseReason
import LineEcho.Stream.Machine

/-!
# The echo on one connection

A session reads a chunk, writes it back whole, and goes on until the peer closes or an operation
fails; then it shuts its direction down, whatever comes of that, and is closed for good. Its
counters are those of the chunks that went back whole.
-/

namespace LineEcho

/-- The buffer of a session and its limits on one read and on writing one chunk back. -/
structure EchoSettings where
  bufferSize : Nat
  readTimeout : Option Duration
  writeTimeout : Option Duration
  deriving DecidableEq, Repr

/-- The settings of a session for which none were chosen. -/
instance : Inhabited EchoSettings :=
  ⟨8192, none, none⟩

namespace Session

/-- What a session is at. While it writes, it knows the chunk and what of it has not been accepted
yet; a phase with a limit knows when its operation began. -/
inductive Phase where
  | accepted
  | reading (since : Instant)
  | writing (since : Instant) (chunk unsent : Bytes)
  | closing (result : Except Fault Unit)
  | closed (result : Except Fault Unit)

end Session

/-- One connection on the side of the service. The counters are natural numbers: they are taken
never to leave the 64 bits that a machine has for each. -/
structure Session where
  settings : EchoSettings
  phase : Session.Phase
  octets : Nat
  chunks : Nat
  reason : Option CloseReason

/-- The totals of a session. -/
structure Summary where
  octets : Nat
  chunks : Nat
  reason : Option CloseReason
  deriving DecidableEq, Repr

namespace Session

/-- The stages of a session's life as they are shown. -/
inductive State where
  | accepted
  | echoing
  | closed
  deriving DecidableEq, Repr

namespace State

def all : List State :=
  [accepted, echoing, closed]

def name : State → String
  | accepted => "Accepted"
  | echoing => "Echoing"
  | closed => "Closed"

end State

def start (settings : EchoSettings) : Session :=
  ⟨settings, .accepted, 0, 0, none⟩

def state (session : Session) : State :=
  match session.phase with
  | .accepted => .accepted
  | .closed _ => .closed
  | _ => .echoing

def summary (session : Session) : Summary :=
  ⟨session.octets, session.chunks, session.reason⟩

/-- The room of the buffer, which holds at least one octet. -/
def room (session : Session) : Nat :=
  max session.settings.bufferSize 1

def read (now : Instant) (session : Session) : Session :=
  { session with phase := .reading now }

def leave (reason : CloseReason) (result : Except Fault Unit) (session : Session) : Session :=
  { session with phase := .closing result, reason := some reason }

def leaveReading (fault : Fault) (session : Session) : Session :=
  session.leave (.readFailed fault.text) (.error fault)

def leaveWriting (fault : Fault) (session : Session) : Session :=
  session.leave (.writeFailed fault.text) (.error fault)

/-- Counts a chunk that was written back whole, and begins to read the next one. -/
def completeChunk (now : Instant) (chunk : Bytes) (session : Session) : Session :=
  { session with
    phase := .reading now, octets := session.octets + chunk.length, chunks := session.chunks + 1 }

/-- Goes on after a write accepted some of a chunk. A write that accepts nothing is a failure. -/
def wrote (now since : Instant) (chunk unsent : Bytes) (count : Nat) (session : Session) :
    Session :=
  if count = 0 then session.leaveWriting .writeZero
  else if (unsent.drop count).isEmpty then session.completeChunk now chunk
  else { session with phase := .writing since chunk (unsent.drop count) }

def request (session : Session) : Option Request :=
  match session.phase with
  | .reading _ => some (.read session.room)
  | .writing _ _ unsent => some (.write unsent)
  | .closing _ => some .shutdown
  | _ => none

/-- The deadline of the operation that a session is at. -/
def deadline (session : Session) : Option Deadline :=
  match session.phase with
  | .reading since => session.settings.readTimeout.map (⟨·, since⟩)
  | .writing since _ _ => session.settings.writeTimeout.map (⟨·, since⟩)
  | _ => none

/-- What a session becomes on an answer. The first fault ends the loop. -/
def resume (now : Instant) (answer : Answer) (session : Session) : Session :=
  match session.phase, answer with
  | .reading _, .received [] => session.leave .peerClosed (.ok ())
  | .reading _, .received chunk => { session with phase := .writing now chunk chunk }
  | .reading _, .failed fault => session.leaveReading fault
  | .writing since chunk unsent, .accepted count => session.wrote now since chunk unsent count
  | .writing _ _ _, .failed fault => session.leaveWriting fault
  | .closing result, _ => { session with phase := .closed result }
  | _, _ => session

theorem settings_resume (now : Instant) (answer : Answer) (session : Session) :
    (session.resume now answer).settings = session.settings := by
  simp only [resume, wrote]
  split
  · rfl
  · rfl
  · rfl
  · split
    · rfl
    · split <;> rfl
  · rfl
  · rfl
  · rfl

/-- How far a session is from its end when nothing more comes in and all that goes out is
accepted. -/
def rank (session : Session) : Nat :=
  match session.phase with
  | .writing _ _ _ => 3
  | .reading _ => 2
  | .closing _ => 1
  | _ => 0

def machine : Machine Session where
  request := request
  deadline := deadline
  resume := resume
  rank := rank
  rank_fallback := by
    intro now session asked asks
    rcases session with ⟨settings, phase, octets, chunks, reason⟩
    cases phase <;> simp only [request, Option.some.injEq, reduceCtorEq] at asks <;> subst asks
    · simp [Request.fallback, resume, rank, leave]
    · rename_i since chunk unsent
      by_cases nothing : unsent.length = 0 <;>
        simp [Request.fallback, resume, rank, wrote, nothing, leaveWriting, leave, completeChunk]
    · simp [resume, rank]
  rank_late := by
    intro now session asked limit asks
    rcases session with ⟨settings, phase, octets, chunks, reason⟩
    cases phase <;> simp only [request, Option.some.injEq, reduceCtorEq] at asks <;> subst asks <;>
      simp [resume, rank, leaveReading, leaveWriting, leave, Fault.noProgress]

/-- The result of driving a session: what it came to, and where it all stands. -/
structure Run where
  result : Except Fault Unit
  session : Session
  now : Instant
  streams : Streams
  late : Bool

/-- The result of a session that has ended. -/
def result (session : Session) : Except Fault Unit :=
  match session.phase with
  | .closing result => result
  | .closed result => result
  | _ => .ok ()

/-- Drives a session to its end. One that is closed is not driven again. -/
def run (now : Instant) (streams : Streams) (session : Session) : Run :=
  match session.phase with
  | .closed _ => ⟨.error .alreadyClosed, session, now, streams, false⟩
  | _ =>
    let progress := machine.run now (session.read now) streams
    ⟨progress.state.result, progress.state, progress.now, progress.streams, progress.late⟩

end Session

end LineEcho
