import LineEcho.Proofs.Transfer.Collisions

/-!
# What normalizing changes

Normalizing a file replaces the terminator of each line by a newline, and puts one to the last line
if it has none.  A carriage return at the end of an unterminated last line is taken for a part of a
terminator as well and goes with it.  Everything else stays, which decides how many octets are sent.
-/

namespace LineEcho

namespace Line

/-- A line before and after normalizing. -/
inductive Normalizes : Bytes → Bytes → Prop where
  | newline {content : Bytes} (noReturn : content.getLast? ≠ some Bytes.carriageReturn) :
      Normalizes (content ++ [Bytes.newline]) (content ++ [Bytes.newline])
  | pair (content : Bytes) :
      Normalizes (content ++ [Bytes.carriageReturn, Bytes.newline]) (content ++ [Bytes.newline])
  | unterminated {content : Bytes} (noNewline : content.getLast? ≠ some Bytes.newline)
      (noReturn : content.getLast? ≠ some Bytes.carriageReturn) :
      Normalizes content (content ++ [Bytes.newline])
  | loneReturn (content : Bytes) :
      Normalizes (content ++ [Bytes.carriageReturn]) (content ++ [Bytes.newline])

theorem dropEnd_of_ne {last : UInt8} {bytes : Bytes} (other : bytes.getLast? ≠ some last) :
    dropEnd last bytes = bytes :=
  if_neg other

theorem normalizes_apply (line : Bytes) : Normalizes line (LineEndings.normalize.apply line) := by
  simp only [LineEndings.apply, content]
  by_cases terminated : line.getLast? = some Bytes.newline
  · obtain ⟨front, rfl⟩ := List.getLast?_eq_some_iff.1 terminated
    rw [dropEnd_concat]
    by_cases returns : front.getLast? = some Bytes.carriageReturn
    · obtain ⟨content, rfl⟩ := List.getLast?_eq_some_iff.1 returns
      rw [dropEnd_concat, List.append_assoc]
      exact .pair content
    · rw [dropEnd_of_ne returns]
      exact .newline returns
  · rw [dropEnd_of_ne terminated]
    by_cases returns : line.getLast? = some Bytes.carriageReturn
    · obtain ⟨content, rfl⟩ := List.getLast?_eq_some_iff.1 returns
      rw [dropEnd_concat]
      exact .loneReturn content
    · rw [dropEnd_of_ne returns]
      exact .unterminated terminated returns

/-- Whether a line ends in a carriage return and a newline. -/
def endsInPair (line : Bytes) : Bool :=
  isTerminated line && line.dropLast.getLast? == some Bytes.carriageReturn

/-- Whether the last octet, if there is one, passes a test. -/
def lastPasses (test : UInt8 → Bool) (bytes : Bytes) : Bool :=
  bytes.getLast?.any test

@[simp]
theorem lastPasses_concat (test : UInt8 → Bool) (front : Bytes) (last : UInt8) :
    lastPasses test (front ++ [last]) = test last := by
  simp [lastPasses]

@[simp]
theorem endsInPair_concat (front : Bytes) (last : UInt8) :
    endsInPair (front ++ [last]) =
      (last == Bytes.newline && front.getLast? == some Bytes.carriageReturn) := by
  simp [endsInPair, isTerminated]

theorem lastPasses_cons (test : UInt8 → Bool) (octet : UInt8) {rest : Bytes} (more : rest ≠ []) :
    lastPasses test (octet :: rest) = lastPasses test rest := by
  obtain ⟨next, others, rfl⟩ := List.exists_cons_of_ne_nil more
  simp [lastPasses]

/-- All lines but the last one end in a newline, and so does that one if the file does. -/
theorem countP_cut_lastPasses {test : UInt8 → Bool} (fails : test Bytes.newline = false)
    (octets : Bytes) :
    (cut octets).countP (lastPasses test) = (lastPasses test octets).toNat := by
  induction octets with
  | nil => rfl
  | cons octet rest ih =>
    rw [cut]
    split
    · rename_i isNewline
      subst isNewline
      have first : ¬lastPasses test [Bytes.newline] = true := by simp [lastPasses, fails]
      rw [List.countP_cons_of_neg first, ih]
      by_cases alone : rest = []
      · simp [alone, lastPasses, fails]
      · rw [lastPasses_cons test _ alone]
    · cases lines : cut rest with
      | nil =>
        obtain rfl := cut_eq_nil lines
        cases passes : test octet <;> simp [lastPasses, passes]
      | cons line others =>
        have nonempty : line ≠ [] := (isSingle_of_mem_cut (lines ▸ List.mem_cons_self)).1
        have more : rest ≠ [] := by
          rintro rfl
          cases lines
        rw [lines] at ih
        rw [lastPasses_cons test _ more, ← ih, List.countP_cons, List.countP_cons,
          lastPasses_cons test _ nonempty]

/-- Normalizing shortens a line by its carriage return and lengthens it by the newline that it
lacks. -/
theorem Normalizes.length_eq {line sent : Bytes} (normalizes : Normalizes line sent)
    (nonempty : line ≠ []) :
    sent.length + (endsInPair line).toNat +
        (lastPasses (· == Bytes.carriageReturn) line).toNat =
      line.length + (lastPasses (· != Bytes.newline) line).toNat := by
  have different : (Bytes.newline == Bytes.carriageReturn) = false := by decide
  have differentToo : (Bytes.carriageReturn == Bytes.newline) = false := by decide
  cases normalizes with
  | newline noReturn => simp [noReturn, different]
  | pair content =>
    have assoc : content ++ [Bytes.carriageReturn, Bytes.newline] =
        (content ++ [Bytes.carriageReturn]) ++ [Bytes.newline] := by simp
    rw [assoc]
    simp only [endsInPair_concat, lastPasses_concat, different, bne_self_eq_false, beq_self_eq_true,
      List.length_append, List.getLast?_concat]
    rfl
  | unterminated noNewline noReturn =>
    obtain ⟨front, last, rfl⟩ : ∃ front last, line = front ++ [last] :=
      ⟨_, _, (List.dropLast_concat_getLast nonempty).symm⟩
    rw [List.getLast?_concat, ne_eq, Option.some.injEq] at noNewline noReturn
    simp [bne, beq_eq_false_iff_ne.2 noNewline, beq_eq_false_iff_ne.2 noReturn]
  | loneReturn content => simp [bne, differentToo]

theorem normalizes_getElem? (lines : List Bytes) (index : Nat) :
    Option.Rel Normalizes lines[index]? (lines.map LineEndings.normalize.apply)[index]? := by
  rw [List.getElem?_map]
  cases lines[index]? with
  | none => exact .none
  | some line => exact .some (normalizes_apply line)

theorem length_flatten_normalize {lines : List Bytes} (nonempty : ∀ line ∈ lines, line ≠ []) :
    (lines.map LineEndings.normalize.apply).flatten.length + lines.countP endsInPair +
        lines.countP (lastPasses (· == Bytes.carriageReturn)) =
      lines.flatten.length + lines.countP (lastPasses (· != Bytes.newline)) := by
  induction lines with
  | nil => rfl
  | cons line others ih =>
    obtain ⟨begun, nonempty⟩ := List.forall_mem_cons.1 nonempty
    have alone := (normalizes_apply line).length_eq begun
    have later := ih nonempty
    have counted (test : Bytes → Bool) :
        (line :: others).countP test = (test line).toNat + others.countP test := by
      rw [List.countP_cons, Nat.add_comm]
      cases test line <;> rfl
    simp only [counted, List.map_cons, List.flatten_cons, List.length_append]
    omega

theorem lastPasses_beq (last : UInt8) (bytes : Bytes) :
    (lastPasses (· == last) bytes).toNat = if bytes.getLast? = some last then 1 else 0 := by
  unfold lastPasses
  cases bytes.getLast? with
  | none => simp
  | some other => by_cases same : other = last <;> simp [same]

theorem lastPasses_bne (last : UInt8) (bytes : Bytes) :
    (lastPasses (· != last) bytes).toNat =
      if bytes = [] ∨ bytes.getLast? = some last then 0 else 1 := by
  unfold lastPasses
  cases ends : bytes.getLast? with
  | none => simp [List.getLast?_eq_none_iff.1 ends]
  | some other =>
    have nonempty : bytes ≠ [] := by
      rintro rfl
      cases ends
    by_cases same : other = last <;> simp [nonempty, same]

/-- Normalizing a file drops the carriage return of each pair and adds a newline at its end if there
is none, for which a carriage return at the end is dropped. -/
theorem length_linesOf_normalize (content : Bytes) :
    (LineEndings.normalize.linesOf content).flatten.length + (cut content).countP endsInPair +
        (if content.getLast? = some Bytes.carriageReturn then 1 else 0) =
      content.length +
        (if content = [] ∨ content.getLast? = some Bytes.newline then 0 else 1) := by
  have nonempty : ∀ line ∈ cut content, line ≠ [] :=
    fun line member => (isSingle_of_mem_cut member).1
  have summed := length_flatten_normalize nonempty
  rw [flatten_cut, countP_cut_lastPasses (by decide), countP_cut_lastPasses (by decide),
    lastPasses_beq, lastPasses_bne] at summed
  exact summed

end Line

namespace Sending

/-- **What normalizing changes.**  The lines that a source yields when it normalizes a file are
those that it yields when it preserves them, each with its terminator, if it has one, replaced by a
newline, or with one put to it; but a carriage return at the end of an unterminated line is dropped.
So, when the file is sent successfully, the octets that were sent are those of the file and of the
end record, less one for each pair of a carriage return and a newline at the end of a line, less one
for a carriage return at the end of the file, and one more if no newline stands there. -/
theorem normalized_octets_sent {room : Nat} {streams : Streams} {content : Bytes}
    (has_room : 0 < room)
    (deliver : Input.Deliver content (Incoming.inputs streams.source.steps)) (now : Instant)
    (writeTimeout : Option Duration) :
    let preserved := (LineSource.start room .preserve).yield now streams
    let normalized := (LineSource.start room .normalize).yield now streams
    preserved.lines.flatten = content ∧ preserved.fault? = none ∧
    normalized.fault? = none ∧
    (∀ index : Nat, Option.Rel Line.Normalizes preserved.lines[index]? normalized.lines[index]?) ∧
    ∀ counts, (run now (.start room .normalize) writeTimeout streams).state.result = .ok counts →
      counts.octetsSent + preserved.lines.countP Line.endsInPair +
          (if content.getLast? = some Bytes.carriageReturn then 1 else 0) =
        content.length +
          (if content = [] ∨ content.getLast? = some Bytes.newline then 0 else 1) + 9 := by
  intro preserved normalized
  have preserved_eq : preserved = ⟨Line.cut content, none⟩ := by
    rw [← LineEndings.linesOf_preserve]
    exact LineSource.yield_of_deliver now has_room deliver
  have normalized_eq : normalized = ⟨LineEndings.normalize.linesOf content, none⟩ :=
    LineSource.yield_of_deliver now has_room deliver
  rw [preserved_eq, normalized_eq]
  refine ⟨Line.flatten_cut content, rfl, rfl, Line.normalizes_getElem? _, fun counts sent => ?_⟩
  obtain ⟨-, rfl⟩ := accepted_of_ok sent
  have lines_eq : ((LineSource.start room .normalize).yield now streams).lines =
      LineEndings.normalize.linesOf content := congrArg LineSource.Yield.lines normalized_eq
  have changed := Line.length_linesOf_normalize content
  have length_endRecord : Line.endRecord.length = 9 := rfl
  simp only [finalCounts, SendCounts.ofLines, lines_eq, length_endRecord]
  omega

/-- A file of one line that ends in a carriage return and has no newline. -/
def returning : Streams :=
  { (default : Streams) with source := .ofSteps [.answer (.data [0x61, 0x62, 0x63, 0x0D])] }

theorem deliver_returning :
    Input.Deliver [0x61, 0x62, 0x63, 0x0D] (Incoming.inputs returning.source.steps) :=
  ⟨0, by decide⟩

theorem sent_returning :
    (run 0 (.start 8192 .normalize) none returning).state.result = .ok ⟨1, 13, 0⟩ := by
  cbv

/-- The carriage return of that file is not sent. -/
theorem normalized_octets_sent_returning :
    0 < 8192 ∧ (run 0 (.start 8192 .normalize) none returning).state.result = .ok ⟨1, 13, 0⟩ ∧
      13 + ((LineSource.start 8192 .preserve).yield 0 returning).lines.countP Line.endsInPair + 1 =
        4 + 1 + 9 := by
  have some_room : 0 < 8192 := by decide
  obtain ⟨-, -, -, -, counted⟩ :=
    normalized_octets_sent some_room deliver_returning 0 none
  exact ⟨some_room, sent_returning, counted _ sent_returning⟩

/-- Normalizing does more than replace the terminators of lines: the carriage return goes though it
belongs to none, and the octet that it was is missing from the count. -/
theorem normalizing_drops_lone_return :
    (LineEndings.preserve.linesOf [0x61, 0x62, 0x63, 0x0D] = [[0x61, 0x62, 0x63, 0x0D]] ∧
      LineEndings.normalize.linesOf [0x61, 0x62, 0x63, 0x0D] ≠
        [[0x61, 0x62, 0x63, 0x0D, 0x0A]]) ∧
    ¬ ∀ (streams : Streams) (content : Bytes) (counts : SendCounts),
      Input.Deliver content (Incoming.inputs streams.source.steps) →
      (run 0 (.start 8192 .normalize) none streams).state.result = .ok counts →
      counts.octetsSent +
          ((LineSource.start 8192 .preserve).yield 0 streams).lines.countP Line.endsInPair =
        content.length +
          (if content = [] ∨ content.getLast? = some Bytes.newline then 0 else 1) + 9 := by
  refine ⟨by decide, fun claimed => ?_⟩
  have counted := claimed returning _ _ deliver_returning sent_returning
  rw [LineSource.yield_of_deliver 0 (by decide) deliver_returning] at counted
  revert counted
  decide

end Sending

end LineEcho
