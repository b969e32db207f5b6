import Mathlib.Algebra.GroupWithZero.Nat
import LineEcho.LineCount
import LineEcho.Proofs.Transfer.Choices
import LineEcho.Proofs.Transfer.Collisions

/-!
# Counting the lines of a transfer

The lines of a file are counted octet by octet, while a transfer looks for them in a buffer into
which the file comes in pieces.  Both find the same lines, whichever way they end, so what is
counted of a file says what a report on its transfer will say.
-/

namespace LineEcho

open LineSource

/-- An octet that is no newline begins a line, or belongs to the one that follows it. -/
theorem Line.length_cut_cons_of_ne {octet : UInt8} (other : octet ≠ Bytes.newline) (rest : Bytes) :
    (cut (octet :: rest)).length = max 1 (cut rest).length := by
  rw [cut, if_neg other]
  cases lines : cut rest with
  | nil => rfl
  | cons line others =>
    rw [List.length_cons, List.length_cons]
    omega

namespace LineCount

/-- Counting adds the lines and octets of what is left of a file.  A line that has been begun is one
of them, and the first one that is left continues it. -/
theorem tally_eq (lines octets begun : Nat) (content : Bytes) :
    tally lines octets begun content =
      (lines + (if begun = 0 then (Line.cut content).length
          else max 1 (Line.cut content).length),
        octets + begun + content.length) := by
  induction content generalizing lines octets begun with
  | nil =>
    rw [tally]
    split
    · rename_i nothing
      subst nothing
      rfl
    · rfl
  | cons octet rest ih =>
    rw [tally]
    split
    · rename_i isNewline
      have cut_eq : Line.cut (octet :: rest) = [octet] :: Line.cut rest := by
        rw [Line.cut, if_pos isNewline]
      rw [ih, cut_eq]
      simp only [List.length_cons, if_true, Prod.mk.injEq]
      split <;> omega
    · rename_i other
      rw [ih, if_neg (Nat.succ_ne_zero begun), Line.length_cut_cons_of_ne other]
      simp only [List.length_cons, Prod.mk.injEq]
      split <;> omega

theorem of_eq (file : String) (content : Bytes) (elapsedMicros : Nat) :
    of file content elapsedMicros =
      ⟨file, (Line.cut content).length, content.length, elapsedMicros⟩ := by
  simp only [of, tally_eq, if_true, Nat.zero_add]

end LineCount

/-- Lines whose endings are uniform are as long as what they hold, and one newline each. -/
theorem LineEndings.length_flatten_normalize (lines : List Bytes) :
    (lines.map normalize.apply).flatten.length =
      (lines.map (fun line => (Line.content line).length + 1)).sum := by
  rw [List.length_flatten, List.map_map]
  refine congrArg List.sum (List.map_congr_left (fun line _ => ?_))
  exact List.length_append

namespace Client

/-- A file is found as its octets and nothing after them. -/
theorem deliver_stepsOf (content : Bytes) :
    Input.Deliver content (Incoming.inputs (stepsOf (.ok content))) := by
  cases content with
  | nil => exact ⟨1, rfl⟩
  | cons octet rest => exact ⟨0, rfl⟩

variable {config : ClientConfig} {choices : Nat → Side} {file : String}
  {steps : List (Step Incoming)} {connection : Connection} {content : Bytes}
  {report : TransferReport}

/-- A report counts the lines of the file as they were sent, and the end record. -/
theorem counts_of_transfer (deliver : Input.Deliver content (Incoming.inputs steps))
    (succeeds :
      (transfer choices file (.ok steps) ⟨config, .connected connection⟩).result = .ok report) :
    report.counts = Sending.finalCounts (.ofLines (config.lineEndings.linesOf content)) := by
  have sends : (send config choices file steps connection).1 = .ok report := succeeds
  obtain ⟨counts, alone, result⟩ | ⟨error, -, result⟩ :=
    send_cases config choices file steps connection
  · cases result.symm.trans sends
    obtain ⟨-, counts_eq⟩ := Sending.accepted_of_ok alone.sent
    have has_room : 0 < room := by decide
    rw [yield_of_deliver connection.since has_room deliver] at counts_eq
    exact counts_eq
  · cases result.symm.trans sends

/-- **Counting agrees with transferring.**  A file that can be read is counted: all its octets, and
as many lines as a transfer finds in it, in whatever pieces it is delivered and however its lines
are to end.  So the report on a transfer of this file that succeeds has the same number of lines.
The octets that were sent are those of the end record and, as the mode has it, those of the file, or
of what its lines hold with one newline each. -/
theorem count_agrees {fileSystem : FileSystem} {path : String} {content : Bytes}
    (opened : fileSystem.openFile path = .ok (.ok content)) (elapsedMicros : Nat) :
    ∃ count, LineCount.ofFile fileSystem path elapsedMicros = .ok count ∧
      count.octets = content.length ∧
      (∀ (endings : LineEndings) (room : Nat) (now : Instant) (streams : Streams), 0 < room →
        Input.Deliver content (Incoming.inputs streams.source.steps) →
        let yielded := (LineSource.start room endings).yield now streams
        yielded.fault? = none ∧ yielded.lines = (Line.cut content).map endings.apply ∧
          yielded.lines.length = count.lines) ∧
      (∃ steps, openedFile fileSystem path = .ok steps ∧
        Input.Deliver content (Incoming.inputs steps)) ∧
      ∀ (config : ClientConfig) (connection : Connection) (choices : Nat → Side)
        (steps : List (Step Incoming)) (report : TransferReport),
        Input.Deliver content (Incoming.inputs steps) →
        (transfer choices path (.ok steps) ⟨config, .connected connection⟩).result = .ok report →
        report.counts.lines = count.lines ∧
          report.counts.octetsSent =
            match config.lineEndings with
            | .preserve => count.octets + 9
            | .normalize =>
              ((Line.cut content).map (fun line => (Line.content line).length + 1)).sum + 9 := by
  have counted : LineCount.ofFile fileSystem path elapsedMicros =
      .ok (.of path content elapsedMicros) := by
    rw [LineCount.ofFile, opened]
  rw [LineCount.of_eq] at counted
  refine ⟨_, counted, rfl, ?_, ⟨stepsOf (.ok content), ?_, deliver_stepsOf content⟩, ?_⟩
  · intro endings room now streams has_room deliver yielded
    have yielded_eq : yielded = .ofOctets endings content := yield_of_deliver now has_room deliver
    rw [yielded_eq]
    exact ⟨rfl, rfl, List.length_map _⟩
  · rw [openedFile, opened]
    rfl
  · intro config connection choices steps report deliver succeeds
    rw [counts_of_transfer deliver succeeds]
    refine ⟨List.length_map _, ?_⟩
    have length_endRecord : Line.endRecord.length = 9 := rfl
    simp only [Sending.finalCounts, SendCounts.ofLines, length_endRecord]
    cases config.lineEndings with
    | preserve => simp only [LineEndings.linesOf_preserve, Line.flatten_cut]
    | normalize => simp only [LineEndings.linesOf, LineEndings.length_flatten_normalize]

/-- A file of two lines, `a` with a carriage return and a newline after it, and `b`. -/
def twoLines : FileSystem :=
  { (default : FileSystem) with
    tree := ⟨[(["two"], .file [0x61, 0x0D, 0x0A, 0x62])]⟩ }

theorem openFile_twoLines : twoLines.openFile "two" = .ok (.ok [0x61, 0x0D, 0x0A, 0x62]) :=
  rfl

def normalizing : ClientConfig :=
  { (default : ClientConfig) with lineEndings := .normalize }

/-- A connection on which the other side closes at once. -/
def closing : Connection :=
  ⟨.v4 [127, 0, 0, 1] 5555, 0, default⟩

theorem sentAlone_twoLines :
    (sentAlone normalizing (stepsOf (.ok [0x61, 0x0D, 0x0A, 0x62])) closing).state.result =
      .ok ⟨2, 13, 0⟩ := by
  cbv

theorem finishedAlone_twoLines :
    (finishedAlone normalizing (stepsOf (.ok [0x61, 0x0D, 0x0A, 0x62])) closing).state.result =
      .ok () := by
  cbv

theorem drainedAlone_closing :
    (drainedAlone normalizing closing).state.result = some (.ok ()) := by
  cbv

/-- Two lines of that file are counted, and two are sent, without the carriage return of the first
one and with a newline for the second one. -/
theorem count_agrees_twoLines :
    twoLines.openFile "two" = .ok (.ok [0x61, 0x0D, 0x0A, 0x62]) ∧
      ∃ count report, LineCount.ofFile twoLines "two" 0 = .ok count ∧
        (transferFile twoLines "two" ⟨normalizing, .connected closing⟩).result = .ok report ∧
        count.octets = 4 ∧ count.lines = 2 ∧ report.counts.lines = count.lines ∧
        report.counts.octetsSent = (1 + 1) + (1 + 1) + 9 := by
  obtain ⟨count, counted, octets_eq, -, -, reports⟩ := count_agrees openFile_twoLines 0
  have steps_eq : openedFile twoLines "two" = .ok (stepsOf (.ok [0x61, 0x0D, 0x0A, 0x62])) := by
    rw [openedFile, openFile_twoLines]
    rfl
  let steps := stepsOf (.ok [0x61, 0x0D, 0x0A, 0x62])
  let report := reportAlone normalizing steps closing "two" ⟨2, 13, 0⟩
  have sends : (send normalizing (fun _ => .outward) "two" steps closing).1 = .ok report :=
    send_of_drained (fun _ => .outward) "two" sentAlone_twoLines finishedAlone_twoLines
      drainedAlone_closing
  have transferred :
      (transferFile twoLines "two" ⟨normalizing, .connected closing⟩).result = .ok report := by
    rw [transferFile, steps_eq]
    exact sends
  obtain ⟨sameLines, sent_eq⟩ := reports normalizing closing (fun _ => .outward) _ _
    (deliver_stepsOf _) sends
  exact ⟨openFile_twoLines, count, report, counted, transferred, octets_eq, sameLines.symm,
    sameLines, sent_eq⟩

end Client

end LineEcho
