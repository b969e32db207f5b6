import LineEcho.Line
import LineEcho.Stream.Machine

/-!
# The lines of a file, one after another

A file is fetched in pieces into a buffer, and lines are cut off at newlines, wherever the pieces
end. What stands after the last newline is a line too. A fetch that fails loses the part of a line
that was fetched before it, and an interrupted one is tried again.
-/

namespace LineEcho

/-- A file as a source of lines: the room of the buffer, how lines end, what the buffer still holds,
and the number of lines so far. -/
structure LineSource where
  capacity : Nat
  endings : LineEndings
  buffered : Bytes
  linesRead : Nat
  deriving DecidableEq, Repr

namespace LineSource

/-- A file of which nothing has been fetched. -/
def start (capacity : Nat) (endings : LineEndings) : LineSource :=
  ⟨capacity, endings, [], 0⟩

/-- An octet string up to and with its first newline, and what follows. -/
def splitLine? : Bytes → Option (Bytes × Bytes)
  | [] => none
  | octet :: rest =>
    if octet = Bytes.newline then some ([octet], rest)
    else (splitLine? rest).map (fun (line, after) => (octet :: line, after))

theorem length_of_splitLine? {octets line after : Bytes}
    (split : splitLine? octets = some (line, after)) : after.length < octets.length := by
  induction octets generalizing line with
  | nil => simp [splitLine?] at split
  | cons octet rest ih =>
    simp only [splitLine?] at split
    split at split
    · cases split
      simp
    · obtain ⟨⟨shorter, left⟩, found, same⟩ := Option.map_eq_some_iff.1 split
      cases same
      exact Nat.lt_succ_of_lt (ih found)

/-- What comes of looking for a line: one was found, or the end of the file, or a fault, or only the
beginning of a line, for which more has to be fetched. -/
inductive Search where
  | line (octets : Bytes)
  | finished
  | broken (fault : Fault)
  | incomplete (fetched : Bytes)
  deriving DecidableEq, Repr

/-- Gives out a line with the terminator that the mode asks for. -/
def yieldLine (octets : Bytes) (source : LineSource) : Search × LineSource :=
  (.line (source.endings.apply octets), { source with linesRead := source.linesRead + 1 })

/-- Looks for the end of a line, whose beginning has been fetched, in the buffer. -/
def scan (fetched : Bytes) (source : LineSource) : Search × LineSource :=
  match splitLine? source.buffered with
  | some (line, after) => yieldLine (fetched ++ line) { source with buffered := after }
  | none => (.incomplete (fetched ++ source.buffered), { source with buffered := [] })

def next (source : LineSource) : Search × LineSource :=
  source.scan []

/-- Goes on looking when a fetch is answered. -/
def onFetch (fetched : Bytes) (answer : Answer) (source : LineSource) : Search × LineSource :=
  match answer with
  | .received [] => if fetched.isEmpty then (.finished, source) else source.yieldLine fetched
  | .received octets => scan fetched { source with buffered := octets }
  | .failed fault =>
    if fault.kind = .interrupted then (.incomplete fetched, source) else (.broken fault, source)
  | _ => (.incomplete fetched, source)

/-- How much of the file a source still holds itself. -/
def held (fetched : Bytes) (source : LineSource) : Nat :=
  fetched.length + source.buffered.length

/-- A line in the buffer leaves less there. -/
theorem held_scan (fetched : Bytes) (source : LineSource) :
    match source.scan fetched with
    | (.line _, after) => after.buffered.length < source.buffered.length
    | (.incomplete more, after) => held more after = held fetched source
    | _ => True := by
  simp only [scan]
  cases found : splitLine? source.buffered with
  | none => simp [held]
  | some pair => simpa [yieldLine] using length_of_splitLine? found

end LineSource

/-- The search for one line: the source, and what has come of it. -/
structure LineSearch where
  source : LineSource
  found : LineSource.Search

namespace LineSearch

/-- Begins to look for the next line of a source. -/
def start (source : LineSource) : LineSearch :=
  ⟨source.next.2, source.next.1⟩

def request (search : LineSearch) : Option Request :=
  match search.found with
  | .incomplete _ => some (.fetch search.source.capacity)
  | _ => none

def resume (_now : Instant) (answer : Answer) (search : LineSearch) : LineSearch :=
  match search.found with
  | .incomplete fetched =>
    ⟨(search.source.onFetch fetched answer).2, (search.source.onFetch fetched answer).1⟩
  | _ => search

/-- A search ends at the latest when nothing more can be fetched. -/
def rank (search : LineSearch) : Nat :=
  match search.found with
  | .incomplete _ => 1
  | _ => 0

/-- A search as a machine. No limit is put on the fetches. -/
def machine : Machine LineSearch where
  request := request
  deadline := fun _ => none
  resume := resume
  rank := rank
  rank_fallback := by
    intro now search asked asks
    rcases search with ⟨source, found⟩
    cases found <;> simp only [request, Option.some.injEq, reduceCtorEq] at asks
    subst asks
    rename_i fetched
    by_cases nothing : fetched.isEmpty <;>
      simp [Request.fallback, resume, LineSource.onFetch, rank, nothing, LineSource.yieldLine]
  rank_late := by
    intro now search asked limit asks
    rcases search with ⟨source, found⟩
    cases found <;> simp only [request, Option.some.injEq, reduceCtorEq] at asks
    simp [resume, LineSource.onFetch, rank, Fault.noProgress]

/-- The outcome of asking for one line: the line, none at the end of the file, or a fault. -/
def outcome (search : LineSearch) : Except Fault (Option Bytes) :=
  match search.found with
  | .line octets => .ok (some octets)
  | .broken fault => .error fault
  | _ => .ok none

def run (now : Instant) (source : LineSource) (streams : Streams) : Progress LineSearch :=
  machine.run now (start source) streams

end LineSearch

end LineEcho
