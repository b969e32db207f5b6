import LineEcho.Proofs.Transfer.Tally

/-!
# Fidelity of sending

A run of sending is compared with the lines that its source yields when nothing is written at all.
When it succeeds, all the lines and the end record were accepted, and nothing else; when the file
cannot be read, exactly the lines before the fault; when a write fails, the first lines and a strict
beginning of the next record.

Reading and writing go on the same clock, but the source yields the same lines whatever the writes
wait for, so the lines ahead can be followed through a run: `Sending.ahead` loses a line when it is
found and stays as it is otherwise.
-/

namespace LineEcho

open LineSource

/-- The records that were offered in a transcript, one for each write. -/
def offeredRecords (polls : List Poll) : List Bytes :=
  polls.filterMap Poll.offered?

@[simp]
theorem offeredRecords_concat (past : List Poll) (poll : Poll) :
    offeredRecords (past ++ [poll]) = offeredRecords past ++ poll.offered?.toList := by
  cases offered : poll.offered? <;> simp [offeredRecords, offered]

namespace Sending

/-- What the source still yields, after the line that is being written if there is one. -/
def ahead (progress : Progress Sending) : Yield :=
  match progress.state.phase with
  | .fetching fetched =>
    LineSearch.yieldFrom
      ⟨progress.now, ⟨progress.state.source, .incomplete fetched⟩, progress.streams, false⟩
  | _ => progress.state.source.yield progress.now progress.streams

/-- What a search yields is what it has found and what is ahead once sending has gone on with it. -/
theorem before_ahead_found (now : Instant) (search : Search × LineSource) (sending : Sending)
    (streams : Streams) (late : Bool) :
    search.1.before (ahead ⟨now, found now search sending, streams, late⟩) =
      LineSearch.yieldFrom ⟨now, ⟨search.2, search.1⟩, streams, false⟩ := by
  obtain ⟨result, source⟩ := search
  rw [LineSearch.yieldFrom_eq_before]
  cases result <;> rfl

/-- As long as every write was accepted whole, the records that were offered are those that were
written, and the current one is offered whole. -/
def Offers (written : List Bytes) (past : List Poll) (sending : Sending) : Prop :=
  (∀ poll ∈ past, poll.isWhole = true) →
    match sending.phase with
    | .fetching _ => offeredRecords past = written
    | .writing _ line unsent => offeredRecords past = written ∧ unsent = line
    | .ending _ unsent => offeredRecords past = written ∧ unsent = Line.endRecord
    | .done (.ok _) => offeredRecords past = written ++ [Line.endRecord]
    | .done (.error _) => True

theorem offers_found (now : Instant) (search : Search × LineSource) (sending : Sending)
    {written : List Bytes} {past : List Poll}
    (offers : (∀ poll ∈ past, poll.isWhole = true) → offeredRecords past = written) :
    (found now search sending).Offers written past := by
  obtain ⟨result, source⟩ := search
  intro whole
  cases result with
  | line line => exact ⟨offers whole, rfl⟩
  | finished => exact ⟨offers whole, rfl⟩
  | broken fault => trivial
  | incomplete fetched => exact offers whole

theorem offers_of_not_whole {written : List Bytes} {past : List Poll} {poll : Poll}
    {sending : Sending} (partly : poll.isWhole = false) :
    sending.Offers written (past ++ [poll]) := by
  intro whole
  have := whole poll (by simp)
  rw [partly] at this
  contradiction

/-- What is kept through a run of sending. -/
def Kept (total : Yield) (progress : Progress Sending) (past : List Poll) : Prop :=
  ∃ written, progress.state.Follows total written (acceptedOctets past) (ahead progress) ∧
    progress.state.Offers written past

variable {total : Yield} {past : List Poll} {now : Instant} {sending : Sending}
  {streams : Streams} {late : Bool}

theorem whole_of_concat {poll : Poll} (whole : ∀ other ∈ past ++ [poll], other.isWhole = true) :
    (∀ other ∈ past, other.isWhole = true) ∧ poll.isWhole = true :=
  ⟨fun other member => whole other (by simp [member]), whole poll (by simp)⟩

/-- Sending answers a fetch like the search for a line that it is at. -/
theorem advance_fetch {sending : Sending} {fetched : Bytes}
    (fetching : sending.phase = .fetching fetched) (now : Instant) (streams : Streams)
    (late : Bool) :
    ∃ later answer left,
      machine.advance ⟨now, sending, streams, late⟩ (.fetch sending.source.capacity) =
        ⟨later, found later (sending.source.onFetch fetched answer) sending, left, late⟩ ∧
      machine.poll ⟨now, sending, streams, late⟩ (.fetch sending.source.capacity) =
        ⟨.fetch sending.source.capacity, answer, false⟩ ∧
      LineSearch.machine.advance ⟨now, ⟨sending.source, .incomplete fetched⟩, streams, false⟩
          (.fetch sending.source.capacity) =
        ⟨later, ⟨(sending.source.onFetch fetched answer).2,
          (sending.source.onFetch fetched answer).1⟩, left, false⟩ := by
  obtain ⟨later, answer, left, reply⟩ : ∃ later answer left,
      streams.await none now (.fetch sending.source.capacity) = ⟨answer, false, later, left⟩ :=
    let ⟨later, reply⟩ := Streams.await_fetch now streams sending.source.capacity
    ⟨later, _, _, reply⟩
  have noDeadline : machine.deadline sending = none := by
    simp only [machine, deadline, fetching]
  have resumed : machine.resume later answer sending =
      found later (sending.source.onFetch fetched answer) sending := by
    simp only [machine, resume, fetching]
  refine ⟨later, answer, left, ?_, ?_, ?_⟩
  · rw [Machine.advance, noDeadline, reply, Bool.or_false, resumed]
  · rw [Machine.poll, noDeadline, reply]
  · rw [Machine.advance]
    simp only [LineSearch.machine, reply, Bool.or_false]
    rfl

/-- A fetch changes what has been found of the lines ahead, and not the lines. -/
theorem Kept.fetch {fetched : Bytes} (kept : Kept total ⟨now, sending, streams, late⟩ past)
    (fetching : sending.phase = .fetching fetched) :
    Kept total
      (machine.advance ⟨now, sending, streams, late⟩ (.fetch sending.source.capacity))
      (past ++
        [machine.poll ⟨now, sending, streams, late⟩ (.fetch sending.source.capacity)]) := by
  obtain ⟨written, follows, offers⟩ := kept
  obtain ⟨later, answer, left, next, polled, searched⟩ := advance_fetch fetching now streams late
  have searches : ahead ⟨now, sending, streams, late⟩ =
      (sending.source.onFetch fetched answer).1.before
        (ahead ⟨later, found later (sending.source.onFetch fetched answer) sending, left,
          late⟩) := by
    rw [before_ahead_found, ← searched, ← LineSearch.yieldFrom_advance rfl]
    simp only [ahead, fetching]
  obtain ⟨total_eq, accepted_eq, counts_eq⟩ := (follows_fetching fetching).1 follows
  -- the search that is under way and sending take the same answer, so they stay abreast
  rw [next, polled]
  refine ⟨written, ?_, ?_⟩
  · rw [acceptedOctets_concat, accepted_eq]
    simp only [Poll.accepted, List.append_nil]
    refine follows_found later counts_eq ?_ (fun line => ne_nil_of_onFetch)
    rw [total_eq, searches]
  · refine offers_found later _ sending (fun whole => ?_)
    have offered := offers (whole_of_concat whole).1
    simp only [fetching] at offered
    simpa [Poll.offered?] using offered

/-- What is ahead depends neither on the moment nor on the scripts of the connection. -/
theorem ahead_congr {left : Streams} (same : left.SameSource streams) (later : Instant)
    (overdue : Bool) :
    ahead ⟨later, sending, left, overdue⟩ = ahead ⟨now, sending, streams, late⟩ := by
  simp only [ahead]
  split
  · exact LineSearch.yieldFrom_congr ⟨rfl, same⟩
  · exact yield_congr same _ _ _

theorem Kept.congr {left : Streams} (kept : Kept total ⟨now, sending, streams, late⟩ past)
    (same : left.SameSource streams) (later : Instant) (overdue : Bool) :
    Kept total ⟨later, sending, left, overdue⟩ past := by
  obtain ⟨written, follows, offers⟩ := kept
  refine ⟨written, ?_, offers⟩
  rw [ahead_congr same]
  exact follows

theorem isWhole_eq_false {octets : Bytes} {count : Nat} {missed : Bool}
    (rest : octets.drop count ≠ []) :
    Poll.isWhole ⟨.write octets, .accepted count, missed⟩ = false := by
  have fewer := List.length_lt_of_drop_ne_nil rest
  simp only [Poll.isWhole, beq_eq_false_iff_ne, ne_eq, Answer.accepted.injEq]
  omega

section Answered

variable (written : List Bytes) {unsent : Bytes} {missed : Bool}

theorem kept_of_interrupted
    (follows : sending.Follows total written (acceptedOctets past)
      (ahead ⟨now, sending, streams, late⟩)) :
    Kept total ⟨now, sending, streams, late⟩ (past ++ [⟨.write unsent, .interrupted, missed⟩]) := by
  refine ⟨written, ?_, offers_of_not_whole rfl⟩
  rw [acceptedOctets_concat]
  simp only [Poll.accepted, List.append_nil]
  exact follows

theorem kept_of_failed {fault : Fault} (cutOff : total.CutOff (acceptedOctets past)) :
    Kept total ⟨now, sending.fail .writing fault, streams, late⟩
      (past ++ [⟨.write unsent, .failed fault, missed⟩]) := by
  refine ⟨[], ?_, offers_of_not_whole rfl⟩
  rw [acceptedOctets_concat]
  simp only [Poll.accepted, List.append_nil]
  exact cutOff

/-- A write that accepts something completes its record or leaves a part of it, and one that accepts
nothing cuts the records off. -/
theorem kept_of_accepted {count : Nat} {whole : Sending → Sending}
    {partly : Bytes → Sending.Phase} (owed : unsent ≠ []) (within : count ≤ unsent.length)
    (cutOff : total.CutOff (acceptedOctets past))
    (completed : Kept total ⟨now, whole sending, streams, late⟩
      (past ++ [⟨.write unsent, .accepted unsent.length, missed⟩]))
    (left : unsent.drop count ≠ [] →
      ({ sending with phase := partly (unsent.drop count) } : Sending).Follows total written
        (acceptedOctets past ++ unsent.take count)
        (ahead ⟨now, { sending with phase := partly (unsent.drop count) }, streams, late⟩)) :
    Kept total ⟨now, sending.wrote count unsent whole partly, streams, late⟩
      (past ++ [⟨.write unsent, .accepted count, missed⟩]) := by
  rcases Nat.eq_zero_or_pos count with rfl | moves
  · rw [wrote, if_pos rfl]
    refine ⟨written, ?_, offers_of_not_whole (isWhole_eq_false owed)⟩
    rw [acceptedOctets_concat]
    simp only [Poll.accepted, List.take_zero, List.append_nil]
    exact cutOff
  · rcases wrote_of_pos unsent whole partly sending moves with
      ⟨all, wrote_eq⟩ | ⟨rest, wrote_eq⟩
    · have same : count = unsent.length := Nat.le_antisymm within all
      rw [wrote_eq, same]
      exact completed
    · rw [wrote_eq]
      refine ⟨written, ?_, offers_of_not_whole (isWhole_eq_false rest)⟩
      rw [acceptedOctets_concat]
      exact left rest

theorem Kept.writeLine {since : Instant} {line : Bytes} {answer : Answer}
    (kept : Kept total ⟨now, sending, streams, late⟩ past)
    (writing : sending.phase = .writing since line unsent)
    (fits : Answer.Fits (.write unsent) answer) :
    Kept total ⟨now, sending.resume now answer, streams, late⟩
      (past ++ [⟨.write unsent, answer, missed⟩]) := by
  obtain ⟨written, follows, offers⟩ := kept
  obtain ⟨total_eq, begun, counts_eq⟩ := (follows_writing writing).1 follows
  have cutOff := follows.cutOff (.inl ⟨line, writing⟩)
  have aheadNow : ahead ⟨now, sending, streams, late⟩ = sending.source.yield now streams := by
    simp only [ahead, writing]
  cases fits with
  | interrupted =>
    have resumed : sending.resume now .interrupted = sending := by simp only [resume, writing]
    rw [resumed]
    exact kept_of_interrupted written follows
  | @failed _ fault =>
    have resumed : sending.resume now (.failed fault) = sending.fail .writing fault := by
      simp only [resume, writing]
    rw [resumed]
    exact kept_of_failed cutOff
  | @accepted _ count within =>
    rw [resume_writing now count writing]
    refine kept_of_accepted written begun.unsent_ne_nil within cutOff ?_ (fun rest => ?_)
    · refine ⟨written ++ [line], ?_, ?_⟩
      · rw [acceptedOctets_concat]
        simp only [Poll.accepted, List.take_length]
        refine follows.completeLine now writing ?_ (fun line => ne_nil_of_scan)
        rw [completeLine, before_ahead_found, aheadNow]
        exact yield_eq_ofOutcome _ _ _
      · refine offers_found now _ _ (fun whole => ?_)
        have offered := offers (whole_of_concat whole).1
        simp only [writing] at offered
        simp [Poll.offered?, offered.1, offered.2]
    · exact ⟨by rw [total_eq, aheadNow]; rfl, begun.part rest, counts_eq⟩

theorem Kept.writeEnd {since : Instant} {answer : Answer}
    (kept : Kept total ⟨now, sending, streams, late⟩ past)
    (ending : sending.phase = .ending since unsent)
    (fits : Answer.Fits (.write unsent) answer) :
    Kept total ⟨now, sending.resume now answer, streams, late⟩
      (past ++ [⟨.write unsent, answer, missed⟩]) := by
  obtain ⟨written, follows, offers⟩ := kept
  obtain ⟨total_eq, begun, counts_eq⟩ := (follows_ending ending).1 follows
  have cutOff := follows.cutOff (.inr ending)
  cases fits with
  | interrupted =>
    have resumed : sending.resume now .interrupted = sending := by simp only [resume, ending]
    rw [resumed]
    exact kept_of_interrupted written follows
  | @failed _ fault =>
    have resumed : sending.resume now (.failed fault) = sending.fail .writing fault := by
      simp only [resume, ending]
    rw [resumed]
    exact kept_of_failed cutOff
  | @accepted _ count within =>
    rw [resume_ending now count ending]
    refine kept_of_accepted written begun.unsent_ne_nil within cutOff ?_ (fun rest => ?_)
    · refine ⟨written, ⟨total_eq, ?_, congrArg finalCounts counts_eq⟩, fun whole => ?_⟩
      · rw [acceptedOctets_concat]
        simpa only [Poll.accepted, List.take_length] using begun.accepted_append
      · have offered := offers (whole_of_concat whole).1
        simp only [ending] at offered
        simp [Poll.offered?, offered.1, offered.2]
    · exact ⟨total_eq, begun.part rest, counts_eq⟩

end Answered

/-- Sending goes on as long as its writes succeed, and ends with the fault of the first that does
not. -/
def StopsAt (past : List Poll) (sending : Sending) : Prop :=
  match sending.phase with
  | .done (.error (.transfer .writing fault)) => ∃ before last, past = before ++ [last] ∧
      last.writeFault? = some fault ∧ ∀ poll ∈ before, poll.writeFault? = none
  | _ => ∀ poll ∈ past, poll.writeFault? = none

theorem stopsAt_found (now : Instant) (search : Search × LineSource) (sending : Sending)
    (succeed : ∀ poll ∈ past, poll.writeFault? = none) :
    (found now search sending).StopsAt past := by
  obtain ⟨result, source⟩ := search
  cases result <;> exact succeed

theorem stopsAt_wrote {unsent : Bytes} {count : Nat} {whole : Sending → Sending}
    {partly : Bytes → Sending.Phase} {missed : Bool}
    (before : ∀ poll ∈ past, poll.writeFault? = none)
    (completed : ∀ next, (∀ poll ∈ next, poll.writeFault? = none) → (whole sending).StopsAt next)
    (left : ∀ next, (∀ poll ∈ next, poll.writeFault? = none) →
      ({ sending with phase := partly (unsent.drop count) } : Sending).StopsAt next) :
    (sending.wrote count unsent whole partly).StopsAt
      (past ++ [⟨.write unsent, .accepted count, missed⟩]) := by
  unfold wrote
  split
  · rename_i nothing
    subst nothing
    exact ⟨past, _, rfl, rfl, before⟩
  · rename_i moves
    have moved : Poll.writeFault? ⟨.write unsent, .accepted count, missed⟩ = none :=
      Poll.fault?_of_accepted moves
    have succeed := forall_polls_concat before moved
    split
    · exact completed _ succeed
    · exact left _ succeed

theorem StopsAt.resume (now : Instant) {poll : Poll} (stops : sending.StopsAt past)
    (asks : sending.request = some poll.asked) (fits : Answer.Fits poll.asked poll.answer) :
    (sending.resume now poll.answer).StopsAt (past ++ [poll]) := by
  obtain ⟨asked, answer, missed⟩ := poll
  obtain ⟨source, writeTimeout, counts, phase⟩ := sending
  cases phase with
  | fetching fetched =>
    simp only [request, Option.some.injEq] at asks
    subst asks
    exact stopsAt_found now _ _ (forall_polls_concat stops rfl)
  | writing since line unsent =>
    simp only [request, Option.some.injEq] at asks
    subst asks
    cases fits with
    | accepted within =>
      exact stopsAt_wrote stops (fun next => stopsAt_found now _ _) (fun next succeed => succeed)
    | interrupted => exact forall_polls_concat stops rfl
    | failed => exact ⟨past, _, rfl, rfl, stops⟩
  | ending since unsent =>
    simp only [request, Option.some.injEq] at asks
    subst asks
    cases fits with
    | accepted within =>
      exact stopsAt_wrote stops (fun next succeed => succeed) (fun next succeed => succeed)
    | interrupted => exact forall_polls_concat stops rfl
    | failed => exact ⟨past, _, rfl, rfl, stops⟩
  | done result => simp [request] at asks

/-- Every answer keeps what is kept through a run of sending. -/
theorem Kept.advance {progress : Progress Sending} (kept : Kept total progress past)
    {asked : Request} (asks : machine.request progress.state = some asked) :
    Kept total (machine.advance progress asked) (past ++ [machine.poll progress asked]) := by
  obtain ⟨now, sending, streams, late⟩ := progress
  have asks : sending.request = some asked := asks
  cases phase : sending.phase with
  | fetching fetched =>
    simp only [request, phase, Option.some.injEq] at asks
    subst asks
    exact kept.fetch phase
  | writing since line unsent =>
    simp only [request, phase, Option.some.injEq] at asks
    subst asks
    have same := Streams.sameSource_await_write (machine.deadline sending) now streams unsent
    exact (kept.congr same _ _).writeLine phase (Streams.await_fits _ _ _ _)
  | ending since unsent =>
    simp only [request, phase, Option.some.injEq] at asks
    subst asks
    have same := Streams.sameSource_await_write (machine.deadline sending) now streams unsent
    exact (kept.congr same _ _).writeEnd phase (Streams.await_fits _ _ _ _)
  | done result => simp [request, phase] at asks

/-- The transcript of a run of sending. -/
def polls (now : Instant) (source : LineSource) (writeTimeout : Option Duration)
    (streams : Streams) : List Poll :=
  machine.polls ⟨now, start now source writeTimeout, streams, false⟩

theorem kept_start (now : Instant) (source : LineSource) (writeTimeout : Option Duration)
    (streams : Streams) :
    Kept (source.yield now streams) ⟨now, start now source writeTimeout, streams, false⟩ [] := by
  refine ⟨[], ?_, offers_found now _ _ (fun _ => rfl)⟩
  refine follows_found now rfl ?_ (fun line => ne_nil_of_scan)
  rw [start, before_ahead_found, yield_eq_ofOutcome]
  rfl

theorem kept_run (now : Instant) (source : LineSource) (writeTimeout : Option Duration)
    (streams : Streams) :
    Kept (source.yield now streams) (run now source writeTimeout streams)
        (polls now source writeTimeout streams) ∧
      ∃ result, (run now source writeTimeout streams).state.phase = .done result := by
  refine ⟨?_, ?_⟩
  · exact machine.finish_polls_invariant (Kept (source.yield now streams))
      (fun progress past asked asks kept => kept.advance asks) _ []
      (kept_start now source writeTimeout streams)
  · have asksNothing : (run now source writeTimeout streams).state.request = none :=
      machine.request_finish _
    cases phase : (run now source writeTimeout streams).state.phase with
    | done result => exact ⟨result, rfl⟩
    | fetching fetched => simp [request, phase] at asksNothing
    | writing since line unsent => simp [request, phase] at asksNothing
    | ending since unsent => simp [request, phase] at asksNothing

theorem run_stopsAt (now : Instant) (source : LineSource) (writeTimeout : Option Duration)
    (streams : Streams) :
    (run now source writeTimeout streams).state.StopsAt
      (polls now source writeTimeout streams) := by
  refine machine.finish_polls_invariant (fun progress past => progress.state.StopsAt past)
    ?_ _ [] (stopsAt_found now _ _ (by simp))
  exact fun progress past asked asks stops =>
    StopsAt.resume _ stops asks (Streams.await_fits _ _ _ _)

/-- **Fidelity of sending.**  Whatever the scripts hold, whether or not they have an interrupted
write tried again, and whatever the write limit is, a run of sending compares with what its source
yields as follows.  When it succeeds, the file came to its end, no write failed, the octets that
were accepted are those of all lines and of the end record, and the counters are those of the lines;
if moreover every write was accepted whole, there was one write for each line, in their order, and
one for the end record.  When reading fails, the source failed with the same fault, and exactly the
lines before it were accepted.  When writing fails, it is with the fault of the last request, the
first write to fail; the first lines were accepted and a strict beginning of the record after them,
which is the end record only if the file came to its end.  Nothing else can come of it. -/
theorem sending_fidelity (now : Instant) (source : LineSource) (writeTimeout : Option Duration)
    (streams : Streams) :
    let progress := run now source writeTimeout streams
    let past := polls now source writeTimeout streams
    let accepted := acceptedOctets past
    let total := source.yield now streams
    progress.streams.log.toList = streams.log.toList ++ past.filterMap Poll.entry ∧
    match progress.state.result with
    | .ok counts =>
      total.fault? = none ∧ (∀ poll ∈ past, poll.writeFault? = none) ∧
      accepted = total.lines.flatten ++ Line.endRecord ∧
      counts.lines = total.lines.length ∧ counts.octetsSent = accepted.length ∧
      counts.collisions = total.lines.countP Line.isEndRecord ∧
      ((∀ poll ∈ past, poll.isWhole = true) →
        offeredRecords past = total.lines ++ [Line.endRecord])
    | .error (.transfer .reading fault) =>
      total.fault? = some fault ∧ (∀ poll ∈ past, poll.writeFault? = none) ∧
      accepted = total.lines.flatten
    | .error (.transfer .writing fault) =>
      (∃ before last, past = before ++ [last] ∧ last.writeFault? = some fault ∧
        ∀ poll ∈ before, poll.writeFault? = none) ∧
      ∃ count record begun, (total.lines ++ [Line.endRecord])[count]? = some record ∧
        (count = total.lines.length → total.fault? = none) ∧
        begun <+: record ∧ begun ≠ record ∧
        accepted = (total.lines.take count).flatten ++ begun
    | .error _ => False := by
  intro progress past accepted total
  obtain ⟨⟨written, follows, offers⟩, result, phase⟩ := kept_run now source writeTimeout streams
  have stops := run_stopsAt now source writeTimeout streams
  refine ⟨machine.log_finish _, ?_⟩
  simp only [Follows, phase] at follows
  simp only [Offers, phase] at offers
  simp only [StopsAt, phase] at stops
  have result_eq : progress.state.result = result := by simp only [progress, Sending.result, phase]
  rw [result_eq]
  cases result with
  | ok counts =>
    obtain ⟨total_eq, accepted_eq, rfl⟩ := follows
    have total_eq : total = ⟨written, none⟩ := total_eq
    rw [total_eq]
    refine ⟨rfl, stops, accepted_eq, rfl, ?_, rfl, offers⟩
    simp only [accepted, past, accepted_eq, finalCounts, SendCounts.ofLines, List.length_append]
  | error error =>
    cases error with
    | transfer stage fault =>
      cases stage with
      | reading =>
        obtain ⟨total_eq, accepted_eq⟩ := follows
        have total_eq : total = ⟨written, some fault⟩ := total_eq
        rw [total_eq]
        exact ⟨rfl, stops, accepted_eq⟩
      | writing => exact ⟨stops, follows⟩
      | finalizing => exact follows
    | _ => exact follows

end Sending

end LineEcho
