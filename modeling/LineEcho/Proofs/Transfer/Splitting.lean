import LineEcho.Proofs.Line.Inputs

/-!
# Splitting a file into lines, call by call

A source of lines that is asked again and again takes one line after another off what its buffer and
its script hold, `LineSource.inputs`.  Where the script cuts the octets into chunks, how much the
buffer has room for, how long the reads wait and how often they are interrupted makes no difference.

A search is followed by what the call that it belongs to will come to, `LineSearch.call`, which a
fetch does not change.
-/

namespace LineEcho

open Input

/-- The outcome of a call in a mode: its line, if there is one, with the terminator that the mode
asks for. -/
def LineEndings.applyTo (endings : LineEndings) (outcome : Outcome) : Outcome :=
  outcome.map (Option.map endings.apply)

/-- What a call for a line comes to: its outcome, the number of lines so far, and what is left to
be read. -/
structure Call where
  outcome : Outcome
  linesRead : Nat
  left : List Input

namespace LineSource

/-- What a source has to read: what is in its buffer, and what the script of the file delivers. -/
def inputs (source : LineSource) (streams : Streams) : List Input :=
  ofOctets source.buffered ++ Incoming.inputs streams.source.steps

/-- What a call comes to when something was taken off what the source has to read. -/
def took (source : LineSource) (taken : Outcome × List Input) : Call :=
  ⟨source.endings.applyTo taken.1, source.linesRead + (if isLine taken.1 then 1 else 0), taken.2⟩

/-- What a call comes to that has begun a line. -/
def call (begun : Bytes) (rest : List Input) (source : LineSource) : Call :=
  source.took (takeLine begun (ofOctets source.buffered ++ rest))

end LineSource

namespace LineSearch

open LineSource

/-- What the call comes to that a search belongs to, when the script still delivers the rest. -/
def call (rest : List Input) (search : LineSearch) : Call :=
  match search.found with
  | .incomplete fetched => search.source.call fetched rest
  | _ => ⟨search.outcome, search.source.linesRead, ofOctets search.source.buffered ++ rest⟩

/-- Looking for a newline in the buffer changes nothing of what the call comes to. -/
theorem call_scan (fetched : Bytes) (rest : List Input) (source : LineSource) :
    call rest ⟨(source.scan fetched).2, (source.scan fetched).1⟩ = source.call fetched rest := by
  unfold scan
  split
  · rename_i line after split
    rw [LineSource.call, takeLine_of_splitLine? split]
    rfl
  · rename_i split
    rw [LineSource.call, takeLine_ofOctets (splitLine?_eq_none_iff.1 split)]
    rfl

/-- An answer is worth what it stands for. -/
theorem call_onFetch {source : LineSource} (empty : source.buffered = []) (fetched : Bytes)
    (answer : Answer) (rest : List Input) :
    call rest ⟨(source.onFetch fetched answer).2, (source.onFetch fetched answer).1⟩ =
      source.call fetched (ofAnswer answer ++ rest) := by
  fun_cases onFetch fetched answer source with
  | case1 nothing =>
    obtain rfl := List.isEmpty_iff.1 nothing
    simp only [call, LineSource.call, empty]
    rfl
  | case2 begun =>
    have found : takeLine fetched (ofAnswer (.received []) ++ rest) =
        (.ok (some fetched), rest) := by
      simp [ofAnswer, takeLine, atEnd, begun]
    simp only [LineSource.call, empty, ofOctets, List.map_nil, List.nil_append, found]
    simp only [call, yieldLine, empty]
    rfl
  | case3 octets delivers =>
    rw [call_scan]
    have meets : ofAnswer (.received octets) = ofOctets octets := by
      cases octets with
      | nil => exact absurd rfl delivers
      | cons octet octets => rfl
    rw [LineSource.call, LineSource.call, empty, meets]
    rfl
  | case4 fault interrupted =>
    have meets : ofAnswer (.failed fault) = [] := if_pos interrupted
    rw [meets]
    rfl
  | case5 fault fails =>
    have meets : ofAnswer (.failed fault) = [.fails fault] := if_neg fails
    rw [meets, LineSource.call, empty]
    simp only [call, empty]
    rfl
  | case6 answer notNothing notReceived notFailed =>
    have meets : ofAnswer answer = [] := by
      cases answer with
      | received octets => exact absurd rfl (notReceived octets)
      | failed fault => exact absurd rfl (notFailed fault)
      | _ => rfl
    rw [meets]
    rfl

/-- What a search keeps of its source: the room and the endings.  Unless it has found a line, it has
looked through the whole buffer. -/
structure Continues (source : LineSource) (search : LineSearch) : Prop where
  capacity_eq : search.source.capacity = source.capacity
  endings_eq : search.source.endings = source.endings
  empty : (∀ line, search.found ≠ .line line) → search.source.buffered = []

theorem continues_scan (fetched : Bytes) (source : LineSource) :
    Continues source ⟨(source.scan fetched).2, (source.scan fetched).1⟩ := by
  unfold scan
  split
  · exact ⟨rfl, rfl, fun notFound => absurd rfl (notFound _)⟩
  · exact ⟨rfl, rfl, fun _ => rfl⟩

theorem continues_onFetch {source : LineSource} (empty : source.buffered = []) (fetched : Bytes)
    (answer : Answer) :
    Continues source ⟨(source.onFetch fetched answer).2, (source.onFetch fetched answer).1⟩ := by
  fun_cases onFetch fetched answer source with
  | case3 octets delivers =>
    obtain ⟨capacity_eq, endings_eq, looked⟩ :=
      continues_scan fetched { source with buffered := octets }
    exact ⟨capacity_eq, endings_eq, looked⟩
  | _ => exact ⟨rfl, rfl, fun _ => empty⟩

/-- A search that belongs to a call of a source. -/
structure Serves (source : LineSource) (whole : Call) (progress : Progress LineSearch) : Prop where
  continues : Continues source progress.state
  call_eq : progress.state.call (Incoming.inputs progress.streams.source.steps) = whole

variable {source : LineSource} {whole : Call} {progress : Progress LineSearch}

theorem Serves.advance {asked : Request} (serves : Serves source whole progress)
    (has_room : 0 < source.capacity) (asks : progress.state.request = some asked) :
    Serves source whole (machine.advance progress asked) := by
  obtain ⟨⟨capacity_eq, endings_eq, empty⟩, rfl⟩ := serves
  obtain ⟨later, next⟩ := advance_eq asks
  rw [next]
  obtain ⟨now, ⟨current, found⟩, streams, late⟩ := progress
  cases found with
  | line line => cases asks
  | finished => cases asks
  | broken fault => cases asks
  | incomplete fetched =>
    have empty : current.buffered = [] := empty (by simp)
    obtain ⟨sameCapacity, sameEndings, looked⟩ :=
      continues_onFetch empty fetched (nextAnswer streams current.capacity).1
    refine ⟨⟨sameCapacity.trans capacity_eq, sameEndings.trans endings_eq, looked⟩, ?_⟩
    have answered := Incoming.takeLine_answer (capacity_eq ▸ has_room) fetched streams.source.steps
    refine (call_onFetch empty fetched _ _).trans ?_
    simp only [call, LineSource.call, empty]
    exact congrArg current.took answered.symm

theorem serves_run (now : Instant) (streams : Streams) (has_room : 0 < source.capacity) :
    Serves source (source.call [] (Incoming.inputs streams.source.steps))
      (run now source streams) := by
  refine machine.finish_invariant (Serves source _) ?_ ⟨now, start source, streams, false⟩
    ⟨continues_scan [] source, call_scan [] _ source⟩
  intro progress asked asks serves
  exact serves.advance has_room asks

/-- What one call takes off what the source has to read. -/
theorem run_takes (now : Instant) (streams : Streams) (has_room : 0 < source.capacity) :
    let progress := run now source streams
    let search := progress.state
    Continues source search ∧
      ∃ plain, Takes (source.inputs streams) plain (search.source.inputs progress.streams) ∧
        search.outcome = source.endings.applyTo plain ∧
        search.source.linesRead = source.linesRead + (if isLine plain then 1 else 0) := by
  intro progress search
  obtain ⟨continues, call_eq⟩ := serves_run now streams has_room
  refine ⟨continues, (takeLine [] (source.inputs streams)).1, ?_⟩
  have ended : search.request = none := machine.request_finish _
  have result : search.call (Incoming.inputs progress.streams.source.steps) =
      ⟨search.outcome, search.source.linesRead, search.source.inputs progress.streams⟩ := by
    unfold call
    split
    · rename_i fetched found
      simp [request, search, found] at ended
    · rfl
  have parts := result.symm.trans call_eq
  simp only [LineSource.call, took, Call.mk.injEq] at parts
  obtain ⟨outcome_eq, linesRead_eq, left_eq⟩ := parts
  refine ⟨?_, outcome_eq, linesRead_eq⟩
  rw [left_eq]
  exact takes_takeLine List.not_mem_nil _

theorem buffered_run_eq_nil (now : Instant) (streams : Streams) (has_room : 0 < source.capacity)
    (atEnd : (run now source streams).state.outcome = .ok none) :
    (run now source streams).state.source.buffered = [] := by
  refine (run_takes now streams has_room).1.empty (fun line found => ?_)
  simp [outcome, found] at atEnd

/-- Reading takes octets off the front of what the script has to deliver. -/
theorem payload_run (now : Instant) (source : LineSource) (streams : Streams) :
    ∃ delivered, Incoming.payload streams.source.steps =
      delivered ++ Incoming.payload (run now source streams).streams.source.steps := by
  refine machine.finish_invariant (fun progress => ∃ delivered, Incoming.payload
    streams.source.steps = delivered ++ Incoming.payload progress.streams.source.steps) ?_ _
    ⟨[], rfl⟩
  rintro progress asked asks ⟨delivered, whole⟩
  obtain ⟨later, next⟩ := advance_eq asks
  have answered := Incoming.payload_answer progress.state.source.capacity
    (Script.ready progress.streams.source.steps)
  rw [Incoming.payload_ready] at answered
  rw [whole, ← answered, next, ← List.append_assoc]
  exact ⟨_, rfl⟩

end LineSearch

namespace LineSource

/-- What asking for lines has come to, call by call, and where it has left the file. -/
structure Asked where
  outcomes : List Outcome
  now : Instant
  source : LineSource
  streams : Streams

/-- Asks a source for so many lines, one after another. -/
def ask (now : Instant) (source : LineSource) (streams : Streams) : Nat → Asked
  | 0 => ⟨[], now, source, streams⟩
  | count + 1 =>
    let progress := LineSearch.run now source streams
    let later := ask progress.now progress.state.source progress.streams count
    { later with outcomes := progress.state.outcome :: later.outcomes }

variable {source : LineSource}

/-- Calls take what they find off what the source has to read, and count the lines among it. -/
theorem ask_reads (has_room : 0 < source.capacity) (now : Instant) (streams : Streams)
    (count : Nat) :
    let asked := source.ask now streams count
    ∃ plain, Reads (source.inputs streams) plain (asked.source.inputs asked.streams) ∧
      plain.length = count ∧ asked.outcomes = plain.map source.endings.applyTo ∧
      asked.source.linesRead = source.linesRead + plain.countP isLine := by
  induction count generalizing now source streams with
  | zero => exact ⟨[], .nil _, rfl, rfl, rfl⟩
  | succ count ih =>
    obtain ⟨continues, first, takes, outcome_eq, linesRead_eq⟩ :=
      LineSearch.run_takes now streams has_room
    obtain ⟨plain, reads, rfl, outcomes_eq, total_eq⟩ :=
      ih (continues.capacity_eq ▸ has_room) (LineSearch.run now source streams).now
        (LineSearch.run now source streams).streams
    refine ⟨first :: plain, .cons takes reads, rfl, ?_, ?_⟩
    · rw [continues.endings_eq] at outcomes_eq
      exact congr (congrArg List.cons outcome_eq) outcomes_eq
    · rw [List.countP_cons]
      refine total_eq.trans ?_
      omega

/-- What was delivered stands in the buffer or was taken off it.  After a call that found the end of
the file, the buffer is empty. -/
theorem payload_ask (has_room : 0 < source.capacity) (now : Instant) (streams : Streams)
    (count : Nat) :
    let asked := source.ask now streams count
    (∃ delivered, Incoming.payload streams.source.steps =
        delivered ++ Incoming.payload asked.streams.source.steps) ∧
      (asked.outcomes.getLast? = some (.ok none) → asked.source.buffered = []) := by
  induction count generalizing now source streams with
  | zero => exact ⟨⟨[], rfl⟩, fun atEnd => by contradiction⟩
  | succ count ih =>
    obtain ⟨continues, -⟩ := LineSearch.run_takes now streams has_room
    obtain ⟨⟨later, whole⟩, empty⟩ :=
      ih (continues.capacity_eq ▸ has_room) (LineSearch.run now source streams).now
        (LineSearch.run now source streams).streams
    obtain ⟨delivered, split⟩ := LineSearch.payload_run now source streams
    refine ⟨⟨delivered ++ later, ?_⟩, fun atEnd => ?_⟩
    · rw [split, whole, List.append_assoc]
      rfl
    · cases count with
      | zero => exact LineSearch.buffered_run_eq_nil now streams has_room (Option.some.inj atEnd)
      | succ count => exact empty atEnd

/-- **Splitting a file into lines.**  Calls for lines take them one after another off what is read,
and what becomes of them depends on nothing else: not on the chunks, the room, the waits and the
interruptions.  The mode only decides about the terminators, and the lines are counted.  As long as
no read fails, the lines are the beginning of what was delivered, what follows them stands in the
buffer, and nothing follows them when the last call has come to the end of the file. -/
theorem calls_split_inputs (has_room : 0 < source.capacity) (now : Instant) (streams : Streams)
    (count : Nat) :
    let asked := source.ask now streams count
    (∃ plain,
      Reads (source.inputs streams) plain (asked.source.inputs asked.streams) ∧
      plain.length = count ∧
      asked.outcomes = plain.map source.endings.applyTo ∧
      asked.source.linesRead = source.linesRead + plain.countP isLine ∧
      ((∀ fault, .error fault ∉ plain) → ∃ delivered,
        Incoming.payload streams.source.steps =
          delivered ++ Incoming.payload asked.streams.source.steps ∧
        source.buffered ++ delivered = plain.flatMap taken ++ asked.source.buffered ∧
        (plain.getLast? = some (.ok none) → asked.source.buffered = []))) ∧
    ∀ (other : LineSource) (otherStreams : Streams) (later : Instant), 0 < other.capacity →
      other.endings = source.endings → SameAs (other.inputs otherStreams) (source.inputs streams) →
      (other.ask later otherStreams count).outcomes = asked.outcomes := by
  intro asked
  obtain ⟨plain, reads, length_eq, outcomes_eq, linesRead_eq⟩ :=
    ask_reads has_room now streams count
  obtain ⟨⟨delivered, whole⟩, empty⟩ := payload_ask has_room now streams count
  refine ⟨⟨plain, reads, length_eq, outcomes_eq, linesRead_eq, fun unfailed => ?_⟩, ?_⟩
  · refine ⟨delivered, whole, ?_, fun atEnd => empty ?_⟩
    · have octets := reads.octetsOf_eq unfailed
      simp only [inputs, octetsOf_append, octetsOf_ofOctets, Incoming.octetsOf_inputs, whole,
        ← List.append_assoc] at octets
      exact List.append_cancel_right octets
    · rw [outcomes_eq, List.getLast?_map, atEnd]
      rfl
  · intro other otherStreams later other_room sameEndings sameInputs
    obtain ⟨plainToo, readsToo, lengthToo, outcomesToo, -⟩ :=
      ask_reads other_room later otherStreams count
    obtain rfl := readsToo.unique reads sameInputs (lengthToo.trans length_eq.symm)
    exact outcomesToo.trans (sameEndings ▸ outcomes_eq.symm)

/-- A file that comes in pieces, with a wait and an interruption between them. -/
def inPieces : Streams :=
  { (default : Streams) with
    source := .ofSteps
      [.answer (.data [0x61, 0x0D]), .wait 5, .answer (.fails ⟨.interrupted, "again"⟩),
        .answer (.data [0x0A, 0x62])] }

/-- The same file in one piece, whose end is reported. -/
def inOnePiece : Streams :=
  { (default : Streams) with
    source := .ofSteps [.answer (.data [0x61, 0x0D, 0x0A, 0x62]), .answer .finished] }

/-- The pieces make no difference to the lines. -/
theorem calls_split_inputs_inPieces :
    ((start 1 .normalize).ask 0 inPieces 3).outcomes =
        [.ok (some [0x61, 0x0A]), .ok (some [0x62, 0x0A]), .ok none] ∧
      ((start 8192 .normalize).ask 7 inOnePiece 3).outcomes =
        ((start 1 .normalize).ask 0 inPieces 3).outcomes := by
  have has_room : 0 < (start 1 .normalize).capacity := by decide
  obtain ⟨⟨plain, reads, length_eq, outcomes_eq, -⟩, same⟩ :=
    calls_split_inputs has_room 0 inPieces 3
  have expected : Reads ((start 1 .normalize).inputs inPieces)
      [.ok (some [0x61, 0x0D, 0x0A]), .ok (some [0x62]), .ok none] [] :=
    .cons (takes_iff.2 rfl) (.cons (takes_iff.2 rfl) (.cons (takes_iff.2 rfl) (.nil _)))
  have inputs_eq : (start 8192 .normalize).inputs inOnePiece =
      (start 1 .normalize).inputs inPieces ++ [.nothing] := by decide
  refine ⟨?_, same _ inOnePiece 7 (by decide) rfl ?_⟩
  · obtain rfl := reads.unique expected (fun _ => rfl) length_eq
    exact outcomes_eq.trans rfl
  · rw [inputs_eq]
    exact sameAs_concat_nothing _

end LineSource

end LineEcho
