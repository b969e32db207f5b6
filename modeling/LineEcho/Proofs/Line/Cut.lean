import LineEcho.Transfer.LineSource

/-!
# Cutting a file into lines

`Line.cut` says what the lines of a whole file are.  A source of lines looks for newlines piece by
piece, with `LineSource.splitLine?`, and the lemmas here say that it cuts where `Line.cut` does,
however much of the file has been fetched.
-/

namespace LineEcho

/-- An octet string cut after each of its newlines.  What stands after the last of them is a line
too, unless it is empty. -/
def Line.cut : Bytes → List Bytes
  | [] => []
  | octet :: rest =>
    if octet = Bytes.newline then [octet] :: cut rest
    else
      match cut rest with
      | [] => [[octet]]
      | line :: lines => (octet :: line) :: lines

namespace Line

/-- Cutting loses nothing. -/
theorem flatten_cut (octets : Bytes) : (cut octets).flatten = octets := by
  induction octets with
  | nil => rfl
  | cons octet rest ih =>
    unfold cut
    split
    · simp [ih]
    · cases lines : cut rest with
      | nil => rw [lines] at ih; simp [← ih]
      | cons line others => rw [lines] at ih; simp [← ih]

end Line

/-- The lines of a file as they are sent. -/
def LineEndings.linesOf (endings : LineEndings) (octets : Bytes) : List Bytes :=
  (Line.cut octets).map endings.apply

namespace LineSource

open Line

/-- The first line is cut off, and the rest is cut in the same way. -/
theorem cut_of_splitLine? {octets line after : Bytes}
    (split : splitLine? octets = some (line, after)) : cut octets = line :: cut after := by
  induction octets generalizing line with
  | nil => simp [splitLine?] at split
  | cons octet rest ih =>
    simp only [splitLine?] at split
    split at split
    · rename_i isNewline
      cases split
      rw [cut, if_pos isNewline]
    · rename_i isOther
      obtain ⟨⟨shorter, left⟩, found, same⟩ := Option.map_eq_some_iff.1 split
      cases same
      rw [cut, if_neg isOther, ih found]

theorem cut_of_splitLine?_eq_none {octets : Bytes} (split : splitLine? octets = none)
    (nonempty : octets ≠ []) : cut octets = [octets] := by
  induction octets with
  | nil => exact absurd rfl nonempty
  | cons octet rest ih =>
    simp only [splitLine?] at split
    split at split
    · contradiction
    · rename_i isOther
      rw [cut, if_neg isOther]
      cases rest with
      | nil => rfl
      | cons second others => rw [ih (Option.map_eq_none_iff.1 split) (List.cons_ne_nil _ _)]

/-- No line can be split off when there is no newline. -/
theorem splitLine?_eq_none_iff {octets : Bytes} :
    splitLine? octets = none ↔ Bytes.newline ∉ octets := by
  induction octets with
  | nil => simp [splitLine?]
  | cons octet rest ih =>
    rw [splitLine?]
    split
    · rename_i isNewline
      simp [isNewline]
    · rename_i isOther
      simp [ih, Ne.symm isOther]

theorem splitLine?_append_of_some {octets line after : Bytes}
    (split : splitLine? octets = some (line, after)) (later : Bytes) :
    splitLine? (octets ++ later) = some (line, after ++ later) := by
  induction octets generalizing line with
  | nil => simp [splitLine?] at split
  | cons octet rest ih =>
    simp only [splitLine?] at split
    split at split
    · rename_i isNewline
      cases split
      simp [splitLine?, isNewline]
    · rename_i isOther
      obtain ⟨⟨shorter, left⟩, found, same⟩ := Option.map_eq_some_iff.1 split
      cases same
      simp [splitLine?, isOther, ih found]

/-- What was fetched without a newline belongs to the line that is split off later. -/
theorem splitLine?_append_of_none {fetched : Bytes} (split : splitLine? fetched = none)
    (later : Bytes) :
    splitLine? (fetched ++ later) =
      (splitLine? later).map (fun (line, after) => (fetched ++ line, after)) := by
  induction fetched with
  | nil => simp
  | cons octet rest ih =>
    simp only [splitLine?] at split
    split at split
    · contradiction
    · rename_i isOther
      simp only [List.cons_append, splitLine?, isOther, if_false,
        ih (Option.map_eq_none_iff.1 split), Option.map_map]
      rfl

end LineSource

end LineEcho
