import LineEcho.Proofs.Line.Cut

/-!
# Single lines

`Line.cut` gives back the lines that were put together, as long as each of them is one line and is
terminated.  The end record is such a line.  An unterminated line swallows the first line of what
follows it, and with the end record behind it no receiver takes it for the end record.
-/

namespace LineEcho

namespace Line

/-- An octet string that is one line: it is not empty, and only its last octet may be a newline. -/
def IsSingle (octets : Bytes) : Prop :=
  octets ≠ [] ∧ Bytes.newline ∉ octets.dropLast

theorem isTerminated_iff {octets : Bytes} :
    isTerminated octets = true ↔ octets.getLast? = some Bytes.newline := by
  rw [isTerminated, beq_iff_eq]

/-- A string without newlines is swallowed by the line that follows it, if there is one. -/
theorem cut_append_of_not_mem {first : Bytes} (noNewline : Bytes.newline ∉ first)
    (nonempty : first ≠ []) (second : Bytes) :
    cut (first ++ second) =
      match cut second with
      | [] => [first]
      | line :: lines => (first ++ line) :: lines := by
  induction first with
  | nil => exact absurd rfl nonempty
  | cons octet rest ih =>
    obtain ⟨other, noneLeft⟩ : ¬Bytes.newline = octet ∧ Bytes.newline ∉ rest := by
      simpa using noNewline
    rw [List.cons_append, cut, if_neg (Ne.symm other)]
    cases rest with
    | nil => cases lines : cut second <;> simp [lines]
    | cons next more =>
      rw [ih noneLeft (List.cons_ne_nil _ _)]
      cases lines : cut second <;> rfl

theorem cut_eq_nil {octets : Bytes} (nothing : cut octets = []) : octets = [] := by
  rw [← flatten_cut octets, nothing, List.flatten_nil]

/-- Strings of which the first is terminated are cut one by one. -/
theorem cut_append {first : Bytes} (ends : first = [] ∨ first.getLast? = some Bytes.newline)
    (second : Bytes) : cut (first ++ second) = cut first ++ cut second := by
  induction first with
  | nil => rfl
  | cons octet rest ih =>
    have restEnds : rest = [] ∨ rest.getLast? = some Bytes.newline := by
      cases rest with
      | nil => exact .inl rfl
      | cons next more => exact .inr (by simpa using ends)
    rw [List.cons_append, cut, cut]
    split
    · rw [ih restEnds, List.cons_append]
    · rename_i other
      cases lines : cut rest with
      | nil =>
        -- the octet is the last one of the first string, which is terminated
        obtain rfl := cut_eq_nil lines
        exact absurd (by simpa using ends) other
      | cons line others => rw [ih restEnds, lines, List.cons_append, List.cons_append]

theorem cut_of_isSingle {line : Bytes} (single : IsSingle line) : cut line = [line] := by
  obtain ⟨nonempty, noNewline⟩ := single
  obtain ⟨front, last, rfl⟩ : ∃ front last, line = front ++ [last] :=
    ⟨_, _, (List.dropLast_concat_getLast nonempty).symm⟩
  rw [List.dropLast_concat] at noNewline
  have alone : cut [last] = [[last]] := by
    rw [cut]
    split <;> rfl
  by_cases begins : front = []
  · rw [begins]
    exact alone
  · rw [cut_append_of_not_mem noNewline begins, alone]

/-- Single lines that are terminated are cut apart again. -/
theorem cut_flatten_append {lines : List Bytes}
    (whole : ∀ line ∈ lines, IsSingle line ∧ isTerminated line = true) (rest : Bytes) :
    cut (lines.flatten ++ rest) = lines ++ cut rest := by
  induction lines with
  | nil => rfl
  | cons line others ih =>
    obtain ⟨⟨single, terminated⟩, whole⟩ := List.forall_mem_cons.1 whole
    rw [List.flatten_cons, List.append_assoc, cut_append (.inr (isTerminated_iff.1 terminated)),
      cut_of_isSingle single, ih whole, List.singleton_append, List.cons_append]

theorem isSingle_of_mem_cut {octets line : Bytes} (member : line ∈ cut octets) :
    IsSingle line := by
  induction octets generalizing line with
  | nil => cases member
  | cons octet rest ih =>
    rw [cut] at member
    split at member
    · rcases List.mem_cons.1 member with rfl | member
      · exact ⟨List.cons_ne_nil _ _, List.not_mem_nil⟩
      · exact ih member
    · rename_i other
      cases lines : cut rest with
      | nil =>
        obtain rfl : line = [octet] := by simpa [lines] using member
        exact ⟨List.cons_ne_nil _ _, List.not_mem_nil⟩
      | cons begun others =>
        -- the octet is no newline and joins the first line of the rest
        rw [lines] at member ih
        rcases List.mem_cons.1 member with rfl | member
        · obtain ⟨nonempty, noNewline⟩ := ih List.mem_cons_self
          refine ⟨List.cons_ne_nil _ _, ?_⟩
          rw [List.dropLast_cons_of_ne_nil nonempty]
          exact fun mem => (List.mem_cons.1 mem).elim (Ne.symm other) noNewline
        · exact ih (List.mem_cons_of_mem _ member)

/-- The part of a string after its last newline, and what stands before. -/
theorem exists_front_last (octets : Bytes) :
    ∃ front last, octets = front ++ last ∧
      (front = [] ∨ front.getLast? = some Bytes.newline) ∧ Bytes.newline ∉ last := by
  induction octets with
  | nil => exact ⟨[], [], rfl, .inl rfl, List.not_mem_nil⟩
  | cons octet rest ih =>
    obtain ⟨front, last, rfl, ends, noNewline⟩ := ih
    by_cases begins : front = [] ∧ octet ≠ Bytes.newline
    · obtain ⟨rfl, other⟩ := begins
      exact ⟨[], octet :: last, rfl, .inl rfl, by simp [Ne.symm other, noNewline]⟩
    · refine ⟨octet :: front, last, rfl, .inr ?_, noNewline⟩
      rcases ends with rfl | ends
      · simpa using begins
      · simp [List.getLast?_cons, ends]

theorem eq_of_prefix_of_isSingle {octets line : Bytes} (single : IsSingle line)
    (ends : octets.getLast? = some Bytes.newline) (isPrefix : octets <+: line) : octets = line := by
  obtain ⟨left, rfl⟩ := isPrefix
  by_cases complete : left = []
  · rw [complete, List.append_nil]
  · have noNewline := single.2
    rw [List.dropLast_append_of_ne_nil complete] at noNewline
    exact absurd (List.mem_append_left _ (List.mem_of_getLast? ends)) noNewline

/-- A beginning of some lines that ends in a newline ends at the end of one of them. -/
theorem exists_line_of_prefix {lines : List Bytes} (single : ∀ line ∈ lines, IsSingle line)
    {octets : Bytes} (ends : octets.getLast? = some Bytes.newline)
    (isPrefix : octets <+: lines.flatten) :
    ∃ earlier line later, lines = earlier ++ line :: later ∧ octets = earlier.flatten ++ line := by
  induction lines generalizing octets with
  | nil =>
    obtain rfl := List.prefix_nil.1 isPrefix
    contradiction
  | cons first others ih =>
    obtain ⟨firstSingle, othersSingle⟩ := List.forall_mem_cons.1 single
    rw [List.flatten_cons] at isPrefix
    -- it breaks off within the first line, or it covers that line and goes on in the others
    rcases List.prefix_or_prefix_of_prefix isPrefix (List.prefix_append _ _) with
      within | ⟨rest, rfl⟩
    · exact ⟨[], first, others, rfl, eq_of_prefix_of_isSingle firstSingle ends within⟩
    · by_cases nothing : rest = []
      · exact ⟨[], first, others, rfl, by rw [nothing, List.append_nil]; rfl⟩
      · have restEnds : rest.getLast? = some Bytes.newline := by
          simpa [List.getLast?_append, List.getLast?_eq_some_getLast nothing] using ends
        obtain ⟨earlier, line, later, rfl, rfl⟩ :=
          ih othersSingle restEnds ((List.prefix_append_right_inj _).1 isPrefix)
        exact ⟨first :: earlier, line, later, rfl, (List.append_assoc _ _ _).symm⟩

theorem dropEnd_sublist (last : UInt8) (bytes : Bytes) : (dropEnd last bytes).Sublist bytes := by
  rw [dropEnd]
  split
  · exact List.dropLast_sublist _
  · exact List.Sublist.refl _

@[simp]
theorem dropEnd_concat (last : UInt8) (bytes : Bytes) : dropEnd last (bytes ++ [last]) = bytes := by
  simp [dropEnd]

theorem newline_not_mem_content {line : Bytes} (single : IsSingle line) :
    Bytes.newline ∉ content line := by
  obtain ⟨nonempty, noNewline⟩ := single
  refine fun member => ?_
  have member := (dropEnd_sublist Bytes.carriageReturn _).subset member
  rw [dropEnd] at member
  split at member
  · exact noNewline member
  · rename_i unterminated
    rw [← List.dropLast_concat_getLast nonempty, List.mem_append] at member
    rcases member with inside | atEnd
    · exact noNewline inside
    · rw [List.getLast?_eq_some_getLast nonempty] at unterminated
      simp_all

theorem isEndRecord_of_not_mem {line : Bytes} (noNewline : Bytes.newline ∉ line) :
    isEndRecord line = false := by
  have unterminated : ¬isTerminated line = true :=
    fun terminated => noNewline (List.mem_of_getLast? (isTerminated_iff.1 terminated))
  simp [isEndRecord, unterminated]

/-- A line that ends in the end record is another one unless nothing stands before. -/
theorem isEndRecord_append_endRecord {begun : Bytes} (nonempty : begun ≠ []) :
    isEndRecord (begun ++ endRecord) = false := by
  have content_eq : content (begun ++ endRecord) = begun ++ endContent := by
    have stays : (begun ++ endContent).getLast? = endContent.getLast? := by
      rw [List.getLast?_append]
      rfl
    rw [content, endRecord, ← List.append_assoc, dropEnd_concat, dropEnd, stays,
      if_neg (by decide)]
  have longer : ¬begun ++ endContent = endContent := fun same =>
    nonempty (List.append_left_eq_self.1 same)
  simp [isEndRecord, content_eq, longer]

theorem isSingle_endRecord : IsSingle endRecord :=
  ⟨by decide, by decide⟩

theorem flatten_ends {lines : List Bytes}
    (terminated : ∀ line ∈ lines, isTerminated line = true) :
    lines.flatten = [] ∨ lines.flatten.getLast? = some Bytes.newline := by
  induction lines with
  | nil => exact .inl rfl
  | cons line others ih =>
    obtain ⟨first, rest⟩ := List.forall_mem_cons.1 terminated
    right
    rw [List.flatten_cons, List.getLast?_append]
    rcases ih rest with nothing | ends
    · rw [nothing, isTerminated_iff.1 first]
      rfl
    · rw [ends]
      rfl

/-- The end record does not begin in one line and end in the next one, when the first is
terminated. -/
theorem endRecord_suffix_of_terminated {earlier : List Bytes} {line : Bytes}
    (terminated : ∀ before ∈ earlier, isTerminated before = true) (nonempty : line ≠ [])
    (ends : endRecord <:+ earlier.flatten ++ line) : endRecord <:+ line := by
  rcases List.suffix_or_suffix_of_suffix ends (List.suffix_append _ line) with
    within | ⟨begun, split⟩
  · exact within
  · by_cases nothing : begun = []
    · rw [← split, nothing]
      exact List.suffix_refl _
    · -- what stands of the end record before the line would end in a newline
      exfalso
      obtain ⟨rest, whole⟩ := ends
      rw [← split, ← List.append_assoc] at whole
      have before : earlier.flatten = rest ++ begun := (List.append_cancel_right whole).symm
      have newline : begun.getLast? = some Bytes.newline := by
        rcases flatten_ends terminated with empty | ends
        · rw [before] at empty
          exact absurd (List.append_eq_nil_iff.1 empty).2 nothing
        · simpa [before, List.getLast?_append, List.getLast?_eq_some_getLast nothing] using ends
      have noNewline := isSingle_endRecord.2
      rw [← split, List.dropLast_append_of_ne_nil nonempty] at noNewline
      exact noNewline (List.mem_append_left _ (List.mem_of_getLast? newline))

end Line

namespace LineEndings

theorem isSingle_normalize {line : Bytes} (single : Line.IsSingle line) :
    Line.IsSingle (normalize.apply line) ∧ Line.isTerminated (normalize.apply line) = true := by
  refine ⟨⟨by simp [apply], ?_⟩, Line.isTerminated_iff.2 (by simp [apply])⟩
  simpa [apply] using Line.newline_not_mem_content single

theorem isSingle_apply (endings : LineEndings) {line : Bytes} (single : Line.IsSingle line) :
    Line.IsSingle (endings.apply line) := by
  cases endings with
  | preserve => exact single
  | normalize => exact (isSingle_normalize single).1

end LineEndings

end LineEcho
