import LineEcho.Proofs.Line.Cut
import LineEcho.Proofs.Transfer.Tally

/-!
# Sending a file piece by piece

A file of known octets is fetched in pieces of any sizes.  What has not been sent of it is at one of
three places: the beginning of a line that has been fetched, the buffer, and the part of the file
that is still to be fetched.  The lines of these octets together are the lines ahead, and fetching a
piece does not change them.

`Sending.Serves` says where sending is in a file, and the lemmas after it follow one fetch and one
write.
-/

namespace LineEcho

open LineSource

/-- What a file yields that holds some octets and ends after them. -/
def LineSource.Yield.ofOctets (endings : LineEndings) (octets : Bytes) : Yield :=
  ⟨endings.linesOf octets, none⟩

namespace LineSearch

/-- What a search yields, and the searches after it, when the file still has some octets. -/
def yieldBefore (unread : Bytes) (search : LineSearch) : Yield :=
  match search.found with
  | .incomplete fetched =>
    .ofOctets search.source.endings (fetched ++ (search.source.buffered ++ unread))
  | found => found.before (.ofOctets search.source.endings (search.source.buffered ++ unread))

variable {source : LineSource} {fetched : Bytes}

/-- Looking for a newline in the buffer changes nothing of the lines ahead. -/
theorem yieldBefore_scan (unread : Bytes) (begun : splitLine? fetched = none) :
    yieldBefore unread ⟨(source.scan fetched).2, (source.scan fetched).1⟩ =
      .ofOctets source.endings (fetched ++ (source.buffered ++ unread)) := by
  unfold scan
  split
  · rename_i line after split
    have whole : splitLine? (fetched ++ (source.buffered ++ unread)) =
        some (fetched ++ line, after ++ unread) := by
      rw [splitLine?_append_of_none begun, splitLine?_append_of_some split]
      rfl
    simp only [yieldBefore, yieldLine, Search.before, Yield.ofOctets, Yield.after,
      LineEndings.linesOf, cut_of_splitLine? whole]
    rfl
  · simp [yieldBefore]

theorem yieldBefore_next (unread : Bytes) (source : LineSource) :
    yieldBefore unread ⟨source.next.2, source.next.1⟩ =
      .ofOctets source.endings (source.buffered ++ unread) :=
  yieldBefore_scan unread rfl

/-- A piece of the file goes into the buffer, from where it is looked through. -/
theorem yieldBefore_onFetch {piece : Bytes} (unread : Bytes)
    (begun : splitLine? fetched = none) (empty : source.buffered = [])
    (ends : piece = [] → unread = []) :
    yieldBefore unread
        ⟨(source.onFetch fetched (.received piece)).2,
          (source.onFetch fetched (.received piece)).1⟩ =
      .ofOctets source.endings (fetched ++ (piece ++ unread)) := by
  cases piece with
  | cons octet rest => exact yieldBefore_scan unread begun
  | nil =>
    rw [ends rfl]
    cases fetched with
    | nil =>
      simp [onFetch, yieldBefore, Search.before, Yield.ofOctets, LineEndings.linesOf, Line.cut]
    | cons octet rest =>
      have single := cut_of_splitLine?_eq_none begun (List.cons_ne_nil _ _)
      simp [onFetch, yieldBefore, yieldLine, Search.before, Yield.ofOctets, Yield.after,
        LineEndings.linesOf, single, empty, Line.cut]

end LineSearch

namespace LineSource

/-- What a search leaves behind: the same room and endings, and, when it found only the beginning of
a line, an empty buffer and no newline among what was fetched. -/
structure Leaves (source : LineSource) (search : Search × LineSource) : Prop where
  capacity_eq : search.2.capacity = source.capacity
  endings_eq : search.2.endings = source.endings
  incomplete : ∀ fetched, search.1 = .incomplete fetched →
    splitLine? fetched = none ∧ search.2.buffered = []
  unbroken : ∀ fault, search.1 ≠ .broken fault

theorem leaves_scan {fetched : Bytes} (source : LineSource) (begun : splitLine? fetched = none) :
    source.Leaves (source.scan fetched) := by
  unfold scan
  split
  · exact ⟨rfl, rfl, by simp [yieldLine], by simp [yieldLine]⟩
  · rename_i split
    refine ⟨rfl, rfl, ?_, by simp⟩
    rintro more same
    cases same
    exact ⟨by rw [splitLine?_append_of_none begun, split]; rfl, rfl⟩

theorem leaves_onFetch {fetched : Bytes} (source : LineSource) (piece : Bytes)
    (begun : splitLine? fetched = none) :
    source.Leaves (source.onFetch fetched (.received piece)) := by
  cases piece with
  | cons octet rest =>
    have scanned := leaves_scan { source with buffered := octet :: rest } begun
    exact ⟨scanned.capacity_eq, scanned.endings_eq, scanned.incomplete, scanned.unbroken⟩
  | nil =>
    simp only [onFetch]
    split
    · exact ⟨rfl, rfl, by simp, by simp⟩
    · exact ⟨rfl, rfl, by simp [yieldLine], by simp [yieldLine]⟩

end LineSource

namespace Sending

/-- The lines that are ahead when the file still has some octets. -/
def aheadOf (unread : Bytes) (sending : Sending) : Yield :=
  match sending.phase with
  | .fetching fetched =>
    .ofOctets sending.source.endings (fetched ++ (sending.source.buffered ++ unread))
  | _ => .ofOctets sending.source.endings (sending.source.buffered ++ unread)

/-- Where sending is in a file: some octets were accepted, some are still to be fetched, and nothing
has failed. -/
structure Serves (capacity : Nat) (endings : LineEndings) (content accepted unread : Bytes)
    (sending : Sending) : Prop where
  capacity_eq : sending.source.capacity = capacity
  endings_eq : sending.source.endings = endings
  begun : ∀ fetched, sending.phase = .fetching fetched →
    splitLine? fetched = none ∧ sending.source.buffered = []
  unfailed : ∀ error, sending.phase ≠ .done (.error error)
  follows : ∃ written,
    sending.Follows (.ofOctets endings content) written accepted (sending.aheadOf unread)

variable {capacity : Nat} {endings : LineEndings} {content accepted unread : Bytes}
  {sending : Sending}

/-- Going on with a search, sending is where the search was. -/
theorem serves_found (now : Instant) {search : Search × LineSource} {written : List Bytes}
    (leaves : sending.source.Leaves search)
    (capacity_eq : sending.source.capacity = capacity)
    (endings_eq : sending.source.endings = endings)
    (counts_eq : sending.counts = .ofLines written)
    (content_eq : .ofOctets endings content =
      (LineSearch.yieldBefore unread ⟨search.2, search.1⟩).after written)
    (nonempty : ∀ line, search.1 = .line line → line ≠ []) :
    (found now search sending).Serves capacity endings content written.flatten unread := by
  have ahead_eq : search.1.before ((found now search sending).aheadOf unread) =
      LineSearch.yieldBefore unread ⟨search.2, search.1⟩ := by
    obtain ⟨result, source⟩ := search
    cases result <;> rfl
  have follows := follows_found now counts_eq (ahead_eq ▸ content_eq) nonempty
  obtain ⟨result, source⟩ := search
  obtain ⟨sameCapacity, sameEndings, incomplete, unbroken⟩ := leaves
  cases result with
  | broken fault => exact absurd rfl (unbroken fault)
  | line line =>
    exact ⟨sameCapacity.trans capacity_eq, sameEndings.trans endings_eq, by simp [found],
      by simp [found], written, follows⟩
  | finished =>
    exact ⟨sameCapacity.trans capacity_eq, sameEndings.trans endings_eq, by simp [found],
      by simp [found], written, follows⟩
  | incomplete fetched =>
    refine ⟨sameCapacity.trans capacity_eq, sameEndings.trans endings_eq, ?_, by simp [found],
      written, follows⟩
    rintro more same
    cases same
    exact incomplete fetched rfl

theorem serves_start (now : Instant) (capacity : Nat) (endings : LineEndings) (content : Bytes) :
    (start now (.start capacity endings) none).Serves capacity endings content [] content := by
  have none_written : ([] : List Bytes).flatten = [] := rfl
  rw [← none_written]
  refine serves_found now (leaves_scan _ rfl) rfl rfl rfl ?_ (fun line => ne_nil_of_scan)
  rw [LineSearch.yieldBefore_next]
  rfl

theorem Serves.fetch {piece fetched : Bytes} (now : Instant)
    (serves : sending.Serves capacity endings content accepted (piece ++ unread))
    (fetching : sending.phase = .fetching fetched) (ends : piece = [] → unread = []) :
    (sending.resume now (.received piece)).Serves capacity endings content accepted unread := by
  obtain ⟨capacity_eq, endings_eq, begun, -, written, follows⟩ := serves
  obtain ⟨noNewline, empty⟩ := begun fetched fetching
  obtain ⟨content_eq, rfl, counts_eq⟩ := (follows_fetching fetching).1 follows
  have resumed : sending.resume now (.received piece) =
      found now (sending.source.onFetch fetched (.received piece)) sending := by
    simp only [resume, fetching]
  rw [resumed]
  refine serves_found now (leaves_onFetch _ _ noNewline) capacity_eq endings_eq counts_eq ?_
    (fun line => ne_nil_of_onFetch)
  rw [content_eq, LineSearch.yieldBefore_onFetch unread noNewline empty ends]
  simp only [aheadOf, fetching, empty, List.nil_append]

theorem Serves.write {octets : Bytes} {count : Nat} (now : Instant)
    (serves : sending.Serves capacity endings content accepted unread)
    (asks : sending.request = some (.write octets)) (moves : 0 < count)
    (within : count ≤ octets.length) :
    (sending.resume now (.accepted count)).Serves capacity endings content
      (accepted ++ octets.take count) unread := by
  obtain ⟨capacity_eq, endings_eq, begun, -, written, follows⟩ := serves
  cases phase : sending.phase with
  | fetching fetched => simp [request, phase] at asks
  | done result => simp [request, phase] at asks
  | writing since line unsent =>
    simp only [request, phase, Option.some.injEq, Request.write.injEq] at asks
    subst asks
    obtain ⟨content_eq, owed, counts_eq⟩ := (follows_writing phase).1 follows
    rw [resume_writing now count phase]
    rcases wrote_of_pos unsent (completeLine now line) (.writing since line) sending moves with
      ⟨all, wrote_eq⟩ | ⟨rest, wrote_eq⟩
    · have whole : accepted ++ unsent = (written ++ [line]).flatten := by
        simp [owed.accepted_append]
      rw [wrote_eq, List.take_of_length_le all, whole]
      refine serves_found now (leaves_scan _ rfl) capacity_eq endings_eq ?_ ?_
        (fun line => ne_nil_of_scan)
      · rw [SendCounts.ofLines_concat, ← counts_eq]
      · rw [content_eq, LineSearch.yieldBefore_next, aheadOf, phase]
    · rw [wrote_eq]
      refine ⟨capacity_eq, endings_eq, by simp, by simp, written, ?_, owed.part rest, counts_eq⟩
      rw [content_eq]
      simp only [aheadOf, phase]
  | ending since unsent =>
    simp only [request, phase, Option.some.injEq, Request.write.injEq] at asks
    subst asks
    obtain ⟨content_eq, owed, counts_eq⟩ := (follows_ending phase).1 follows
    rw [resume_ending now count phase]
    rcases wrote_of_pos unsent
        (fun whole => { whole with phase := .done (.ok (finalCounts whole.counts)) })
        (.ending since) sending moves with
      ⟨all, wrote_eq⟩ | ⟨rest, wrote_eq⟩
    · rw [wrote_eq, List.take_of_length_le all]
      exact ⟨capacity_eq, endings_eq, by simp, by simp, written, content_eq,
        owed.accepted_append, congrArg finalCounts counts_eq⟩
    · rw [wrote_eq]
      exact ⟨capacity_eq, endings_eq, by simp, by simp, written, content_eq, owed.part rest,
        counts_eq⟩

/-- What was accepted is always a beginning of the lines and the end record. -/
theorem Serves.accepted_prefix (serves : sending.Serves capacity endings content accepted unread) :
    accepted <+: (endings.linesOf content).flatten ++ Line.endRecord := by
  obtain ⟨-, -, -, -, written, follows⟩ := serves
  have isPrefix := follows.accepted_prefix
  simpa [Yield.records, Yield.ofOctets] using isPrefix

end Sending

end LineEcho
