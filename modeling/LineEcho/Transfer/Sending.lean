import LineEcho.Error
import LineEcho.Transfer.LineSource

/-!
# Sending a file

The lines of a file are written one by one, each as a whole under the write limit, and the end
record after the last of them. The counters are those of the lines that were written whole; a line
that a receiver would take for the end record is sent all the same and counted as a collision.
-/

namespace LineEcho

/-- The counters of a file that is being sent. They are natural numbers, taken never to leave the 64
bits that a machine has for each. -/
structure SendCounts where
  lines : Nat
  octetsSent : Nat
  collisions : Nat
  deriving DecidableEq, Repr, Inhabited

namespace Sending

/-- What sending is at: looking for a line whose beginning has been fetched, writing a line or the
end record, or done. -/
inductive Phase where
  | fetching (fetched : Bytes)
  | writing (since : Instant) (line unsent : Bytes)
  | ending (since : Instant) (unsent : Bytes)
  | done (result : Except Error SendCounts)

end Sending

/-- A file on its way out. -/
structure Sending where
  source : LineSource
  writeTimeout : Option Duration
  counts : SendCounts
  phase : Sending.Phase

namespace Sending

/-- A failure of one of the parts of sending. -/
def fail (stage : TransferStage) (fault : Fault) (sending : Sending) : Sending :=
  { sending with phase := .done (.error (.transfer stage fault)) }

/-- Counts a line that is about to be written if it looks like the end record. -/
def noteCollision (line : Bytes) (counts : SendCounts) : SendCounts :=
  { counts with collisions := counts.collisions + if Line.isEndRecord line then 1 else 0 }

/-- Goes on with what the search for the next line came to. -/
def found (now : Instant) (search : LineSource.Search × LineSource) (sending : Sending) : Sending :=
  match search with
  | (.line line, source) =>
    { sending with
      source := source, counts := noteCollision line sending.counts,
      phase := .writing now line line }
  | (.finished, source) =>
    { sending with source := source, phase := .ending now Line.endRecord }
  | (.broken fault, source) => { sending with source := source }.fail .reading fault
  | (.incomplete fetched, source) => { sending with source := source, phase := .fetching fetched }

/-- Begins to send what a source still has. -/
def start (now : Instant) (source : LineSource) (writeTimeout : Option Duration) : Sending :=
  found now source.next ⟨source, writeTimeout, default, .fetching []⟩

/-- Counts a line that was written whole, and looks for the next one. -/
def completeLine (now : Instant) (line : Bytes) (sending : Sending) : Sending :=
  found now sending.source.next
    { sending with
      counts :=
        { sending.counts with
          lines := sending.counts.lines + 1,
          octetsSent := sending.counts.octetsSent + line.length } }

/-- The counters once the end record has been written too. -/
def finalCounts (counts : SendCounts) : SendCounts :=
  { counts with octetsSent := counts.octetsSent + Line.endRecord.length }

/-- Goes on after a write accepted some of what is unsent. A write that accepts nothing is a
failure. -/
def wrote (count : Nat) (unsent : Bytes) (whole : Sending → Sending) (partly : Bytes → Phase)
    (sending : Sending) : Sending :=
  if count = 0 then sending.fail .writing .writeZero
  else if (unsent.drop count).isEmpty then whole sending
  else { sending with phase := partly (unsent.drop count) }

def request (sending : Sending) : Option Request :=
  match sending.phase with
  | .fetching _ => some (.fetch sending.source.capacity)
  | .writing _ _ unsent => some (.write unsent)
  | .ending _ unsent => some (.write unsent)
  | .done _ => none

/-- The deadline of the write that sending is at. One deadline covers a whole line. -/
def deadline (sending : Sending) : Option Deadline :=
  match sending.phase with
  | .writing since _ _ => sending.writeTimeout.map (⟨·, since⟩)
  | .ending since _ => sending.writeTimeout.map (⟨·, since⟩)
  | _ => none

/-- What sending becomes on an answer. The first fault of a write is the end of sending. -/
def resume (now : Instant) (answer : Answer) (sending : Sending) : Sending :=
  match sending.phase, answer with
  | .fetching fetched, answer => found now (sending.source.onFetch fetched answer) sending
  | .writing since line unsent, .accepted count =>
    sending.wrote count unsent (completeLine now line) (.writing since line)
  | .ending since unsent, .accepted count =>
    sending.wrote count unsent
      (fun whole => { whole with phase := .done (.ok (finalCounts whole.counts)) }) (.ending since)
  | .writing _ _ _, .failed fault => sending.fail .writing fault
  | .ending _ _, .failed fault => sending.fail .writing fault
  | _, _ => sending

/-- How far sending is from its end when nothing more can be fetched and all that goes out is
accepted: two steps for each octet held, which could be a line of its own. -/
def rank (sending : Sending) : Nat :=
  match sending.phase with
  | .fetching fetched => 2 * sending.source.held fetched + 2
  | .writing _ _ _ => 2 * sending.source.buffered.length + 3
  | .ending _ _ => 1
  | .done _ => 0

/-- Looking into the buffer for a line leads to a lower rank than having written one. -/
theorem rank_found_next (now : Instant) (sending : Sending) :
    (found now sending.source.next sending).rank < 2 * sending.source.buffered.length + 3 := by
  have held := LineSource.held_scan [] sending.source
  simp only [LineSource.next]
  cases searched : sending.source.scan [] with
  | mk result after =>
    rw [searched] at held
    cases result <;> simp_all [found, rank, fail, LineSource.held]

def machine : Machine Sending where
  request := request
  deadline := deadline
  resume := resume
  rank := rank
  rank_fallback := by
    intro now sending asked asks
    rcases sending with ⟨source, writeTimeout, counts, phase⟩
    cases phase <;> simp only [request, Option.some.injEq, reduceCtorEq] at asks <;> subst asks
    · rename_i fetched
      cases fetched with
      | nil => simp [Request.fallback, resume, LineSource.onFetch, found, rank]
      | cons octet rest =>
        simp [Request.fallback, resume, LineSource.onFetch, LineSource.yieldLine, found, rank,
          LineSource.held]
        omega
    · rename_i since line unsent
      by_cases nothing : unsent.length = 0
      · simp [Request.fallback, resume, wrote, nothing, rank, fail]
      · have lower := rank_found_next now
          ⟨source, writeTimeout,
            { counts with
              lines := counts.lines + 1, octetsSent := counts.octetsSent + line.length },
            .writing since line unsent⟩
        simp only [Request.fallback, resume, wrote, nothing, if_false, List.drop_length,
          List.isEmpty_nil, if_true, completeLine]
        exact lower
    · rename_i since unsent
      by_cases nothing : unsent.length = 0 <;>
        simp [Request.fallback, resume, wrote, nothing, rank, fail]
  rank_late := by
    intro now sending asked limit asks
    rcases sending with ⟨source, writeTimeout, counts, phase⟩
    cases phase <;> simp only [request, Option.some.injEq, reduceCtorEq] at asks <;> subst asks <;>
      simp [resume, rank, fail, found, LineSource.onFetch, Fault.noProgress]

/-- The result of sending once it is done. -/
def result (sending : Sending) : Except Error SendCounts :=
  match sending.phase with
  | .done result => result
  | _ => .ok sending.counts

def run (now : Instant) (source : LineSource) (writeTimeout : Option Duration)
    (streams : Streams) : Progress Sending :=
  machine.run now (start now source writeTimeout) streams

end Sending

end LineEcho
