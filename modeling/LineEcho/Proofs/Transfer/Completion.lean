import LineEcho.Proofs.Line.Single
import LineEcho.Proofs.Receipt
import LineEcho.Proofs.Transfer.Collisions
import LineEcho.Transfer.Report

/-!
# What a positive receipt says

A receipt shows the end record when the last octets that came back are those of the end record.
That is less than that a line came back which is the end record: a longer line may end in it, and no
collision is counted for such a line.  If what came back is a beginning of what was sent, this is
the only way in which a receipt without collisions misleads.
-/

namespace LineEcho

open LineSource

namespace LineSearch

/-- A search has found a single line, or the beginning of one. -/
structure FindsSingle (search : LineSearch) : Prop where
  begun : ∀ fetched, search.found = .incomplete fetched → splitLine? fetched = none
  single : ∀ line, search.found = .line line → Line.IsSingle line

theorem findsSingle_scan {fetched : Bytes} (source : LineSource)
    (begun : splitLine? fetched = none) :
    FindsSingle ⟨(source.scan fetched).2, (source.scan fetched).1⟩ := by
  refine ⟨fun more found => ((leaves_scan source begun).incomplete more found).1,
    fun line found => ?_⟩
  unfold scan at found
  split at found
  · rename_i octets after split
    cases found
    have whole : splitLine? (fetched ++ source.buffered) = some (fetched ++ octets, after) := by
      rw [splitLine?_append_of_none begun, split]
      rfl
    have cuts := cut_of_splitLine? whole
    exact source.endings.isSingle_apply (Line.isSingle_of_mem_cut (cuts ▸ List.mem_cons_self))
  · cases found

theorem FindsSingle.resume {search : LineSearch} (finds : search.FindsSingle) (now : Instant)
    (answer : Answer) : (search.resume now answer).FindsSingle := by
  obtain ⟨source, found⟩ := search
  cases found with
  | line line => exact finds
  | finished => exact finds
  | broken fault => exact finds
  | incomplete fetched =>
    have begun := finds.begun fetched rfl
    simp only [LineSearch.resume]
    fun_cases onFetch fetched answer source with
    | case1 nothing => exact ⟨by simp, by simp⟩
    | case2 begins =>
      refine ⟨by simp [yieldLine], fun line found => ?_⟩
      cases found
      have single := cut_of_splitLine?_eq_none begun
        (fun nothing => begins (List.isEmpty_iff.2 nothing))
      exact source.endings.isSingle_apply
        (Line.isSingle_of_mem_cut (single ▸ List.mem_singleton_self _))
    | case3 octets delivers => exact findsSingle_scan _ begun
    | case4 fault interrupted => exact finds
    | case5 fault fails => exact ⟨by simp, by simp⟩
    | case6 answer _ _ => exact finds

theorem findsSingle_run (now : Instant) (source : LineSource) (streams : Streams) :
    (run now source streams).state.FindsSingle :=
  machine.finish_invariant (fun later => later.state.FindsSingle)
    (fun progress asked _ finds => finds.resume (machine.advance progress asked).now _) _
    (findsSingle_scan source rfl)

end LineSearch

/-- Whatever the answers in the script of the file are, every line that a source yields is a single
one. -/
theorem LineSource.isSingle_of_mem_yield (now : Instant) (source : LineSource)
    (streams : Streams) : ∀ line ∈ (source.yield now streams).lines, Line.IsSingle line := by
  induction now, source, streams using yield_induction with
  | step now source streams ih =>
    have finds := LineSearch.findsSingle_run now source streams
    rw [yield_eq_ofOutcome, Yield.ofOutcome]
    split
    · rename_i line outcome
      intro other member
      rcases List.mem_cons.1 member with rfl | member
      · refine finds.single other ?_
        unfold LineSearch.outcome at outcome
        split at outcome <;> simp_all
      · exact ih line outcome other member
    · exact List.forall_mem_nil _
    · exact List.forall_mem_nil _

namespace Line

/-- Octets that break off at the end of a line which is not the end record, although they end in it.
If the lines before are terminated, it is that line which ends in the end record. -/
def Misleads (lines : List Bytes) (octets : Bytes) : Prop :=
  ∃ earlier line later, lines = earlier ++ line :: later ∧ octets = earlier.flatten ++ line ∧
    line ≠ endRecord ∧ endRecord <:+ octets ∧
    ((∀ before ∈ earlier, isTerminated before = true) → endRecord <:+ line)

/-- A beginning of what was sent that ends in the end record is all of it, or misleads. -/
theorem eq_or_misleads {lines : List Bytes} (single : ∀ line ∈ lines, IsSingle line)
    (noCollision : lines.countP isEndRecord = 0) {octets : Bytes}
    (isPrefix : octets <+: lines.flatten ++ endRecord) (ends : endRecord <:+ octets) :
    octets = lines.flatten ++ endRecord ∨ Misleads lines octets := by
  have records : ∀ record ∈ lines ++ [endRecord], IsSingle record := by
    intro record member
    rcases List.mem_append.1 member with member | member
    · exact single record member
    · exact List.mem_singleton.1 member ▸ isSingle_endRecord
  have isPrefix : octets <+: (lines ++ [endRecord]).flatten := by simpa using isPrefix
  have newline : octets.getLast? = some Bytes.newline := by
    obtain ⟨begun, rfl⟩ := ends
    simp [endRecord]
  -- they break off at the end of the end record, which is the last of the records, or of a line
  obtain ⟨earlier, line, later, lines_eq, rfl⟩ := exists_line_of_prefix records newline isPrefix
  by_cases last : later = []
  · rw [last] at lines_eq
    obtain ⟨rfl, same⟩ := List.append_inj' lines_eq rfl
    cases same
    exact .inl rfl
  · obtain ⟨others, rfl⟩ : ∃ others, lines = earlier ++ line :: others := by
      refine ⟨later.dropLast, ?_⟩
      have front := congrArg List.dropLast lines_eq
      rwa [List.dropLast_concat, List.dropLast_append_of_ne_nil (List.cons_ne_nil _ _),
        List.dropLast_cons_of_ne_nil last] at front
    have member : line ∈ earlier ++ line :: others := by simp
    refine .inr ⟨earlier, line, others, rfl, rfl, ?_, ends, fun terminated => ?_⟩
    · rintro rfl
      exact absurd (List.countP_eq_zero.1 noCollision endRecord member) (by decide)
    · exact endRecord_suffix_of_terminated terminated (single line member).1 ends

end Line

namespace Sending

variable {now : Instant} {source : LineSource} {writeTimeout : Option Duration}
  {streams : Streams} {counts : SendCounts}

/-- **What a positive receipt says.**  A file was sent and no collision was counted, and a beginning
of what was sent came back, cut into chunks in any way.  Then the receipt shows the end record
exactly when all of it came back, or when what came back breaks off at the end of a line that is not
the end record although the octets end in it.  The report says the same with its counters. -/
theorem receipt_complete_iff
    (sent : (run now source writeTimeout streams).state.result = .ok counts)
    (noCollision : counts.collisions = 0) {chunks : List Bytes}
    (echoed : chunks.flatten <+: acceptedOctets (polls now source writeTimeout streams))
    (capture : Bool) (file remote : String) (elapsedMicros : Nat) :
    let accepted := acceptedOctets (polls now source writeTimeout streams)
    let lines := (source.yield now streams).lines
    let receipt := chunks.foldl Receipt.record (.empty capture)
    let report := TransferReport.of file remote counts receipt elapsedMicros
    (receipt.endsInEndRecord = true ↔
        chunks.flatten = accepted ∨ Line.Misleads lines chunks.flatten) ∧
      (report.endRecordEchoed = true ↔
        report.echoedOctets = report.counts.octetsSent ∨ Line.Misleads lines chunks.flatten) := by
  intro accepted lines receipt report
  obtain ⟨accepted_eq, rfl⟩ := accepted_of_ok sent
  have receipt_eq : receipt = .ofOctets capture chunks.flatten :=
    Receipt.foldl_record_empty capture chunks
  have shows : receipt.endsInEndRecord = true ↔
      chunks.flatten = accepted ∨ Line.Misleads lines chunks.flatten := by
    rw [receipt_eq, Receipt.endsInEndRecord_ofOctets]
    constructor
    · intro ends
      have whole_or := Line.eq_or_misleads (isSingle_of_mem_yield now source streams) noCollision
        (accepted_eq ▸ echoed) ends
      rwa [← accepted_eq] at whole_or
    · rintro (whole | ⟨_, _, _, _, _, _, ends, _⟩)
      · rw [whole, show accepted = _ from accepted_eq]
        exact List.suffix_append _ _
      · exact ends
  have sent_eq : report.counts.octetsSent = accepted.length := by
    simp only [accepted, accepted_eq, List.length_append]
    rfl
  have echoed_eq : report.echoedOctets = chunks.flatten.length := congrArg Receipt.total receipt_eq
  have all_iff : report.echoedOctets = report.counts.octetsSent ↔ chunks.flatten = accepted := by
    rw [sent_eq, echoed_eq]
    exact ⟨echoed.eq_of_length, congrArg List.length⟩
  refine ⟨shows, ?_⟩
  rw [all_iff]
  exact shows

/-- A file of two lines, of which the first is `x--over--`. -/
def masked : Streams :=
  { (default : Streams) with
    source := .ofSteps [.answer (.data (0x78 :: Line.endRecord ++ [0x79, Bytes.newline]))] }

/-- The first line of the file is enough for a receipt to show the end record. -/
theorem receipt_complete_iff_masked :
    (run 0 (.start 8192 .preserve) none masked).state.result = .ok ⟨2, 21, 0⟩ ∧
      (([[0x78], Line.endRecord] : List Bytes).foldl Receipt.record
        (.empty false)).endsInEndRecord = true ∧
      Line.Misleads ((LineSource.start 8192 .preserve).yield 0 masked).lines
        (0x78 :: Line.endRecord) := by
  have sent : (run 0 (.start 8192 .preserve) none masked).state.result = .ok ⟨2, 21, 0⟩ := by cbv
  have accepted_eq : acceptedOctets (polls 0 (.start 8192 .preserve) none masked) =
      0x78 :: Line.endRecord ++ [0x79, Bytes.newline] ++ Line.endRecord := by cbv
  have echoed : [[0x78], Line.endRecord].flatten <+:
      acceptedOctets (polls 0 (.start 8192 .preserve) none masked) := by
    rw [accepted_eq]
    decide
  have shows : (([[0x78], Line.endRecord] : List Bytes).foldl Receipt.record
      (.empty false)).endsInEndRecord = true := by decide
  refine ⟨sent, shows, ?_⟩
  rcases (receipt_complete_iff sent rfl echoed false "file" "remote" 0).1.1 shows with
    whole | misleads
  · rw [accepted_eq] at whole
    exact absurd whole (by decide)
  · exact misleads

/-- A receipt without collisions does not say that all came back. -/
theorem receipt_complete_without_all :
    ¬ ∀ (now : Instant) (source : LineSource) (writeTimeout : Option Duration)
      (streams : Streams) (counts : SendCounts) (chunks : List Bytes) (capture : Bool),
      (run now source writeTimeout streams).state.result = .ok counts → counts.collisions = 0 →
      chunks.flatten <+: acceptedOctets (polls now source writeTimeout streams) →
      ((chunks.foldl Receipt.record (.empty capture)).endsInEndRecord = true ↔
        chunks.flatten = acceptedOctets (polls now source writeTimeout streams)) := by
  intro claimed
  have accepted_eq : acceptedOctets (polls 0 (.start 8192 .preserve) none masked) =
      0x78 :: Line.endRecord ++ [0x79, Bytes.newline] ++ Line.endRecord := by cbv
  have complete := claimed 0 (.start 8192 .preserve) none masked ⟨2, 21, 0⟩
    [0x78 :: Line.endRecord] false (by cbv) rfl
  rw [accepted_eq] at complete
  exact absurd ((complete (by decide)).1 (by decide)) (by decide)

end Sending

end LineEcho
