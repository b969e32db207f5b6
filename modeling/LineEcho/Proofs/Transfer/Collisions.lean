import LineEcho.Proofs.Line.Single
import LineEcho.Proofs.Transfer.Fidelity
import LineEcho.Proofs.Transfer.Reading

/-!
# Collisions on the wire

Sending counts the lines that look like the end record before it puts them together.  A receiver
cuts what came over the wire into lines again and counts those that look like the end record: all
the collisions and the end record itself, except that an unterminated last line hides the end
record, which is written directly behind it.
-/

namespace LineEcho

open LineSource

namespace Sending

variable {now : Instant} {source : LineSource} {writeTimeout : Option Duration}
  {streams : Streams} {counts : SendCounts}

/-- What was accepted and counted when sending succeeds. -/
theorem accepted_of_ok
    (sent : (run now source writeTimeout streams).state.result = .ok counts) :
    acceptedOctets (polls now source writeTimeout streams) =
        (source.yield now streams).lines.flatten ++ Line.endRecord ∧
      counts = finalCounts (.ofLines (source.yield now streams).lines) := by
  obtain ⟨⟨written, follows, -⟩, result, phase⟩ := kept_run now source writeTimeout streams
  obtain rfl : result = .ok counts := by
    rw [← sent, Sending.result, phase]
  simp only [Follows, phase] at follows
  obtain ⟨total_eq, accepted_eq, counts_eq⟩ := follows
  rw [total_eq]
  exact ⟨accepted_eq, counts_eq⟩

end Sending

namespace Line

/-- On the wire, an unterminated last line and the end record are one line, which is no end record,
and everything else is found as it was. -/
theorem countP_cut_append_endRecord (content : Bytes) :
    (cut (content ++ endRecord)).countP isEndRecord =
      if content = [] ∨ content.getLast? = some Bytes.newline then
        (cut content).countP isEndRecord + 1
      else (cut content).countP isEndRecord := by
  have alone : cut endRecord = [endRecord] := by decide
  split
  · rename_i ends
    rw [cut_append ends, alone, List.countP_append]
    rfl
  · rename_i unterminated
    obtain ⟨front, last, rfl, ends, noNewline⟩ := exists_front_last content
    have nonempty : last ≠ [] := by
      rintro rfl
      exact unterminated (by simpa using ends)
    have lastCut : cut last = [last] :=
      cut_of_isSingle ⟨nonempty, fun member => noNewline (List.dropLast_subset _ member)⟩
    rw [List.append_assoc, cut_append ends, cut_append ends, List.countP_append,
      List.countP_append, cut_append_of_not_mem noNewline nonempty, alone, lastCut]
    simp [isEndRecord_append_endRecord nonempty, isEndRecord_of_not_mem noNewline]

/-- Lines whose endings are uniform are found as they were, and the end record after them. -/
theorem countP_cut_normalized (content : Bytes) :
    (cut ((LineEndings.normalize.linesOf content).flatten ++ endRecord)).countP isEndRecord =
      (LineEndings.normalize.linesOf content).countP isEndRecord + 1 := by
  have whole : ∀ line ∈ LineEndings.normalize.linesOf content,
      IsSingle line ∧ isTerminated line = true := by
    intro line member
    obtain ⟨original, originals, rfl⟩ := List.mem_map.1 member
    exact LineEndings.isSingle_normalize (isSingle_of_mem_cut originals)
  rw [cut_flatten_append whole, List.countP_append]
  rfl

end Line

theorem LineEndings.linesOf_preserve (content : Bytes) :
    preserve.linesOf content = Line.cut content :=
  List.map_id _

namespace Sending

variable {now : Instant} {source : LineSource} {writeTimeout : Option Duration}
  {streams : Streams} {counts : SendCounts} {unread : Bytes}

/-- **The collisions that a receiver sees.**  When a file whose octets come in whatever pieces is
sent successfully, what was accepted ends in the end record.  Cut into lines, it holds one line that
looks like the end record for each collision that was counted, and one more, unless the endings are
kept and the last line of the file is not terminated. -/
theorem collisions_on_the_wire (has_room : 0 < source.capacity)
    (holds : Incoming.Holds streams.source.steps unread)
    (sent : (run now source writeTimeout streams).state.result = .ok counts) :
    let accepted := acceptedOctets (polls now source writeTimeout streams)
    let content := source.buffered ++ unread
    Line.endRecord <:+ accepted ∧
      (Line.cut accepted).countP Line.isEndRecord =
        if source.endings = .normalize ∨ content = [] ∨ content.getLast? = some Bytes.newline then
          counts.collisions + 1
        else counts.collisions := by
  intro accepted content
  obtain ⟨accepted_eq, rfl⟩ := accepted_of_ok sent
  rw [yield_of_holds now has_room holds] at accepted_eq ⊢
  have accepted_eq : accepted = (source.endings.linesOf content).flatten ++ Line.endRecord :=
    accepted_eq
  have collisions_eq :
      (finalCounts (.ofLines (Yield.ofOctets source.endings content).lines)).collisions =
        (source.endings.linesOf content).countP Line.isEndRecord := rfl
  refine ⟨accepted_eq ▸ List.suffix_append _ _, ?_⟩
  rw [accepted_eq, collisions_eq]
  cases source.endings with
  | normalize =>
    rw [if_pos (.inl rfl)]
    exact Line.countP_cut_normalized content
  | preserve =>
    simp only [LineEndings.linesOf_preserve, Line.flatten_cut, Line.countP_cut_append_endRecord,
      reduceCtorEq, false_or]

/-- A file of two lines, the end record and an unterminated one. -/
def glued : Streams :=
  { (default : Streams) with
    source := .ofSteps [.answer (.data Line.endRecord), .wait 5, .answer (.data [0x78])] }

/-- The collision is found on the wire, and the end record is not. -/
theorem collisions_on_the_wire_glued :
    (run 0 (.start 8192 .preserve) none glued).state.result = .ok ⟨2, 19, 1⟩ ∧
      Line.endRecord <:+ acceptedOctets (polls 0 (.start 8192 .preserve) none glued) ∧
      (Line.cut (acceptedOctets (polls 0 (.start 8192 .preserve) none glued))).countP
        Line.isEndRecord = 1 := by
  have sent : (run 0 (.start 8192 .preserve) none glued).state.result = .ok ⟨2, 19, 1⟩ := by cbv
  have holds : Incoming.Holds glued.source.steps (Line.endRecord ++ ([0x78] ++ [])) :=
    .data (by decide) (.wait 5 (.data (by decide) .nil))
  obtain ⟨ends, seen⟩ := collisions_on_the_wire (by decide) holds sent
  exact ⟨sent, ends, seen.trans (if_neg (by decide))⟩

end Sending

end LineEcho
