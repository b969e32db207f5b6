import LineEcho.Proofs.Transfer.Lines
import LineEcho.Transfer.Sending

/-!
# What sending a file has written

The source of a file yields some lines in all.  At every moment some of them have been written whole
and one record, a line or the end record, may have been begun; the others are still ahead.
`Sending.Follows` says so for every phase, together with what the counters are.

The lemmas follow sending through one line: it is found, it is accepted in parts, it is counted.
They do not say where the lines come from, so they serve a file that is fetched from a script and
one that is fetched piece by piece.
-/

namespace LineEcho

open LineSource

/-- The counters of some lines that were written whole. -/
def SendCounts.ofLines (lines : List Bytes) : SendCounts where
  lines := lines.length
  octetsSent := lines.flatten.length
  collisions := lines.countP Line.isEndRecord

theorem SendCounts.ofLines_concat (written : List Bytes) (line : Bytes) :
    ofLines (written ++ [line]) =
      let noted := Sending.noteCollision line (ofLines written)
      { noted with
        lines := noted.lines + 1
        octetsSent := noted.octetsSent + line.length } := by
  simp [ofLines, Sending.noteCollision, List.countP_append, List.countP_singleton]

namespace LineSource.Yield

@[simp]
theorem after_after (first second : List Bytes) (yield : Yield) :
    (yield.after second).after first = yield.after (first ++ second) := by
  simp [after, List.append_assoc]

/-- The records of a transfer: the lines in their order and the end record. -/
def records (yield : Yield) : List Bytes :=
  yield.lines ++ [Line.endRecord]

theorem flatten_records (yield : Yield) :
    yield.records.flatten = yield.lines.flatten ++ Line.endRecord := by
  simp [records]

/-- Writing was broken off: some octets are those of the first records and of a strict beginning of
the next one, and the end record is only begun when the file came to its end. -/
def CutOff (yield : Yield) (accepted : Bytes) : Prop :=
  ∃ count record begun, yield.records[count]? = some record ∧
    (count = yield.lines.length → yield.fault? = none) ∧
    begun <+: record ∧ begun ≠ record ∧ accepted = (yield.lines.take count).flatten ++ begun

/-- What was written before writing was broken off is a beginning of the records. -/
theorem CutOff.accepted_prefix {yield : Yield} {accepted : Bytes} (cutOff : yield.CutOff accepted) :
    accepted <+: yield.records.flatten := by
  obtain ⟨count, record, begun, next, -, ⟨rest, rfl⟩, -, rfl⟩ := cutOff
  obtain ⟨inside, found⟩ := List.getElem?_eq_some_iff.1 next
  have within : count ≤ yield.lines.length := by
    simp only [records, List.length_append, List.length_singleton] at inside
    omega
  have before : yield.lines.take count = yield.records.take count := by
    rw [records, List.take_append_of_le_length within]
  have split : yield.records = yield.records.take count ++ (begun ++ rest) ::
      yield.records.drop (count + 1) := by
    rw [← found, List.getElem_cons_drop, List.take_append_drop]
  rw [before]
  conv => rhs; rw [split]
  simp only [List.flatten_append, List.flatten_cons, List.append_assoc]
  exact (List.prefix_append_right_inj _).2 (List.prefix_append _ _)

end LineSource.Yield

/-- A record has been begun after some lines: the octets at its end have not been accepted. -/
structure Begun (written : List Bytes) (accepted record unsent : Bytes) : Prop where
  unsent_ne_nil : unsent ≠ []
  split : ∃ begun, record = begun ++ unsent ∧ accepted = written.flatten ++ begun

namespace Begun

variable {written : List Bytes} {accepted record unsent : Bytes}

theorem of_start (nonempty : record ≠ []) : Begun written written.flatten record record :=
  ⟨nonempty, [], rfl, (List.append_nil _).symm⟩

theorem part {count : Nat} (begun : Begun written accepted record unsent)
    (rest : unsent.drop count ≠ []) :
    Begun written (accepted ++ unsent.take count) record (unsent.drop count) := by
  obtain ⟨sent, rfl, rfl⟩ := begun.split
  refine ⟨rest, sent ++ unsent.take count, ?_, List.append_assoc _ _ _⟩
  rw [List.append_assoc, List.take_append_drop]

theorem accepted_append (begun : Begun written accepted record unsent) :
    accepted ++ unsent = written.flatten ++ record := by
  obtain ⟨sent, rfl, rfl⟩ := begun.split
  rw [List.append_assoc]

theorem accepted_prefix (begun : Begun written accepted record unsent) :
    accepted <+: written.flatten ++ record :=
  begun.accepted_append ▸ List.prefix_append _ _

theorem cutOff (begun : Begun written accepted record unsent) {yield : Yield}
    (next : yield.records[written.length]? = some record)
    (isPrefix : yield.lines.take written.length = written)
    (ended : written.length = yield.lines.length → yield.fault? = none) :
    yield.CutOff accepted := by
  obtain ⟨sent, rfl, rfl⟩ := begun.split
  refine ⟨written.length, _, sent, next, ended, List.prefix_append _ _, ?_, by rw [isPrefix]⟩
  intro same
  exact begun.unsent_ne_nil (List.self_eq_append_right.1 same)

end Begun

namespace Sending

/-- What sending has done of all that its source yields: some lines were written whole, and some
octets were accepted.  While lines are to come, `ahead` is what the source still yields. -/
def Follows (total : Yield) (written : List Bytes) (accepted : Bytes) (ahead : Yield)
    (sending : Sending) : Prop :=
  match sending.phase with
  | .fetching _ =>
    total = ahead.after written ∧ accepted = written.flatten ∧ sending.counts = .ofLines written
  | .writing _ line unsent =>
    total = ahead.after (written ++ [line]) ∧ Begun written accepted line unsent ∧
      sending.counts = noteCollision line (.ofLines written)
  | .ending _ unsent =>
    total = ⟨written, none⟩ ∧ Begun written accepted Line.endRecord unsent ∧
      sending.counts = .ofLines written
  | .done (.ok counts) =>
    total = ⟨written, none⟩ ∧ accepted = written.flatten ++ Line.endRecord ∧
      counts = finalCounts (.ofLines written)
  | .done (.error (.transfer .reading fault)) =>
    total = ⟨written, some fault⟩ ∧ accepted = written.flatten
  | .done (.error (.transfer .writing _)) => total.CutOff accepted
  | .done (.error _) => False

variable {total ahead : Yield} {written : List Bytes} {accepted : Bytes} {sending : Sending}

/-- Finding the next line, the end of the file or a fault, sending follows what the source
yields. -/
theorem follows_found (now : Instant) {search : Search × LineSource}
    (counts_eq : sending.counts = .ofLines written)
    (total_eq : total = (search.1.before ahead).after written)
    (nonempty : ∀ line, search.1 = .line line → line ≠ []) :
    (found now search sending).Follows total written written.flatten ahead := by
  obtain ⟨result, source⟩ := search
  cases result with
  | line line =>
    refine ⟨?_, .of_start (nonempty line rfl), congrArg (noteCollision line) counts_eq⟩
    rw [total_eq, Search.before, Yield.after_after]
  | finished =>
    refine ⟨?_, .of_start (by decide), counts_eq⟩
    simpa [Search.before, Yield.after] using total_eq
  | broken fault =>
    refine ⟨?_, rfl⟩
    simpa [Search.before, Yield.after] using total_eq
  | incomplete fetched => exact ⟨total_eq, rfl, counts_eq⟩

/-- A write that accepts something accepts all that is unsent or leaves a part of it. -/
theorem wrote_of_pos {count : Nat} (unsent : Bytes) (whole : Sending → Sending)
    (partly : Bytes → Phase) (sending : Sending) (moves : 0 < count) :
    (unsent.length ≤ count ∧ sending.wrote count unsent whole partly = whole sending) ∨
      (unsent.drop count ≠ [] ∧
        sending.wrote count unsent whole partly =
          { sending with phase := partly (unsent.drop count) }) := by
  rw [wrote, if_neg (Nat.pos_iff_ne_zero.1 moves)]
  by_cases complete : unsent.drop count = []
  · left
    rw [complete]
    exact ⟨List.drop_eq_nil_iff.1 complete, rfl⟩
  · right
    rw [if_neg (fun nothing => complete (List.isEmpty_iff.1 nothing))]
    exact ⟨complete, rfl⟩

theorem follows_fetching {fetched : Bytes} (fetching : sending.phase = .fetching fetched) :
    sending.Follows total written accepted ahead ↔
      total = ahead.after written ∧ accepted = written.flatten ∧
        sending.counts = .ofLines written := by
  rw [Follows, fetching]

section Writing

variable {since : Instant} {line unsent : Bytes}

theorem resume_writing (now : Instant) (count : Nat)
    (writing : sending.phase = .writing since line unsent) :
    sending.resume now (.accepted count) =
      sending.wrote count unsent (completeLine now line) (.writing since line) := by
  simp only [resume, writing]

theorem resume_ending (now : Instant) (count : Nat)
    (ending : sending.phase = .ending since unsent) :
    sending.resume now (.accepted count) =
      sending.wrote count unsent
        (fun whole => { whole with phase := .done (.ok (finalCounts whole.counts)) })
        (.ending since) := by
  simp only [resume, ending]

theorem follows_writing (writing : sending.phase = .writing since line unsent) :
    sending.Follows total written accepted ahead ↔
      total = ahead.after (written ++ [line]) ∧ Begun written accepted line unsent ∧
        sending.counts = noteCollision line (.ofLines written) := by
  rw [Follows, writing]

theorem follows_ending (ending : sending.phase = .ending since unsent) :
    sending.Follows total written accepted ahead ↔
      total = ⟨written, none⟩ ∧ Begun written accepted Line.endRecord unsent ∧
        sending.counts = .ofLines written := by
  rw [Follows, ending]

theorem Follows.cutOff (follows : sending.Follows total written accepted ahead)
    (writes : (∃ line, sending.phase = .writing since line unsent) ∨
      sending.phase = .ending since unsent) : total.CutOff accepted := by
  rcases writes with ⟨line, writing⟩ | ending
  · obtain ⟨rfl, begun, -⟩ := (follows_writing writing).1 follows
    exact begun.cutOff (by simp [Yield.records, Yield.after]) (by simp [Yield.after])
      (by simp [Yield.after])
  · obtain ⟨rfl, begun, -⟩ := (follows_ending ending).1 follows
    exact begun.cutOff (by simp [Yield.records]) (by simp) (fun _ => rfl)

/-- What was accepted is always a beginning of the lines and the end record. -/
theorem Follows.accepted_prefix (follows : sending.Follows total written accepted ahead) :
    accepted <+: total.records.flatten := by
  rw [Yield.flatten_records]
  unfold Follows at follows
  split at follows
  · obtain ⟨rfl, rfl, -⟩ := follows
    simp [Yield.after]
  · obtain ⟨rfl, begun, -⟩ := follows
    exact begun.accepted_prefix.trans (by simp [Yield.after])
  · obtain ⟨rfl, begun, -⟩ := follows
    exact begun.accepted_prefix
  · obtain ⟨rfl, rfl, -⟩ := follows
    exact List.prefix_refl _
  · obtain ⟨rfl, rfl⟩ := follows
    exact List.prefix_append _ _
  · exact Yield.flatten_records total ▸ Yield.CutOff.accepted_prefix follows
  · cases follows

/-- A line that was accepted whole is counted, and the search for the next one follows. -/
theorem Follows.completeLine {later : Yield} (now : Instant)
    (follows : sending.Follows total written accepted ahead)
    (writing : sending.phase = .writing since line unsent)
    (ahead_eq : ahead = sending.source.next.1.before later)
    (nonempty : ∀ line, sending.source.next.1 = .line line → line ≠ []) :
    (sending.completeLine now line).Follows total (written ++ [line]) (accepted ++ unsent)
      later := by
  obtain ⟨total_eq, begun, counts_eq⟩ := (follows_writing writing).1 follows
  have accepted_eq : accepted ++ unsent = (written ++ [line]).flatten := by
    simp [begun.accepted_append]
  rw [accepted_eq]
  refine follows_found now ?_ (by rw [total_eq, ahead_eq]) nonempty
  rw [SendCounts.ofLines_concat, ← counts_eq]

end Writing

end Sending

end LineEcho
