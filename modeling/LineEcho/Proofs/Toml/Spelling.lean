import LineEcho.Toml.QuotedStyle

/-!
# Spelled texts

Between its quotes a text is spelled character by character: an ordinary character by what a reader
takes for this character, and a quote by itself, as long as there are not too many of them in a row.
Whatever is spelled so is read as the text.  What closes a text of several lines is the first run of
three quotes or more, and all but the last three of them belong to the text.
-/

namespace LineEcho.Toml

/-- How many quotes may stand together in a text of this style. -/
def QuoteStyle.together (style : QuoteStyle) : Nat :=
  if style.ofLines then 2 else 0

def QuoteStyle.readPiece (style : QuoteStyle) : Reader Piece :=
  if style.ofLines then readPieceOfLines style.quote else Toml.readPiece style.quote

/-- A piece stands for a character: it is read as this character whatever follows, and it is no
quote, nor a line break unless the character is a newline. -/
structure Stands (style : QuoteStyle) (piece : List Char) (character : Char) : Prop where
  reads : ∀ more, style.readPiece (piece ++ more) = some (.more [character], more)
  noMark : ∃ first others, piece = first :: others ∧ first ≠ style.quote.mark
  noBreak : character ≠ '\n' → ∀ more, skipLineBreak (piece ++ more) = none

/-- How a text is spelled after so many quotes in a row. -/
inductive Spelling (style : QuoteStyle) : Nat → List Char → List Char → Prop
  | nil (run : Nat) : Spelling style run [] []
  | mark {run : Nat} {body text : List Char} (fits : run < style.together)
      (rest : Spelling style (run + 1) body text) :
      Spelling style run (style.quote.mark :: body) (style.quote.mark :: text)
  | character {run : Nat} {piece body text : List Char} {character : Char}
      (stands : Stands style piece character) (rest : Spelling style 0 body text) :
      Spelling style run (piece ++ body) (character :: text)

theorem readPieces_more {piece : Reader Piece} {fuel : Nat}
    {text rest characters others left : List Char}
    (first : piece text = some (.more characters, rest))
    (following : readPieces piece fuel rest = some (others, left)) :
    readPieces piece (fuel + 1) text = some (characters ++ others, left) := by
  rw [readPieces, first]
  simp only [following, Option.map_some]

theorem readPieces_last {piece : Reader Piece} {text characters left : List Char}
    (first : piece text = some (.last characters, left)) (fuel : Nat) :
    readPieces piece (fuel + 1) text = some (characters, left) := by
  rw [readPieces, first]

namespace Spelling

variable {style : QuoteStyle} {run : Nat} {body text : List Char}

theorem length_le (spelling : Spelling style run body text) : text.length ≤ body.length := by
  induction spelling with
  | nil => exact Nat.le_refl _
  | mark fits rest ih => simpa using ih
  | character stands rest ih =>
    obtain ⟨first, others, rfl, noMark⟩ := stands.noMark
    simp only [List.length_cons, List.length_append]
    omega

/-! ### One line -/

theorem not_mark {quote : Quote} (spelling : Spelling ⟨quote, false⟩ run body text)
    (more : List Char) :
    body = [] ∨ ∃ first others, body ++ more = first :: others ∧ first ≠ quote.mark := by
  cases spelling with
  | nil => exact .inl rfl
  | mark fits rest => exact absurd fits (Nat.not_lt_zero _)
  | character stands rest =>
    obtain ⟨first, others, rfl, noMark⟩ := stands.noMark
    exact .inr ⟨first, _, rfl, noMark⟩

theorem readPieces_line {quote : Quote} (spelling : Spelling ⟨quote, false⟩ run body text)
    (rest : List Char) {fuel : Nat} (enough : text.length < fuel) :
    readPieces (QuoteStyle.readPiece ⟨quote, false⟩) fuel (body ++ quote.mark :: rest) =
      some (text, rest) := by
  induction spelling generalizing fuel with
  | nil =>
    obtain ⟨fuel, rfl⟩ : ∃ less, fuel = less + 1 := ⟨fuel - 1, by omega⟩
    exact readPieces_last (if_pos rfl) fuel
  | mark fits => exact absurd fits (Nat.not_lt_zero _)
  | character stands others ih =>
    obtain ⟨fuel, rfl⟩ : ∃ less, fuel = less + 1 := ⟨fuel - 1, by simp at enough; omega⟩
    rw [List.append_assoc]
    exact readPieces_more (stands.reads _) (ih (by simpa using enough))

theorem readBody_line {quote : Quote} (spelling : Spelling ⟨quote, false⟩ run body text)
    (rest : List Char) : readBody quote (body ++ quote.mark :: rest) = some (text, rest) := by
  have shorter := spelling.length_le
  exact spelling.readPieces_line rest (by simp; omega)

end Spelling

/-! ### Several lines -/

theorem readPieceOfLines_close {quote : Quote} {rest : List Char}
    (ends : rest.head? ≠ some quote.mark) {count : Nat} (few : count ≤ 2) :
    readPieceOfLines quote
        (List.replicate count quote.mark ++ (List.replicate 3 quote.mark ++ rest)) =
      some (.last (List.replicate count quote.mark), rest) := by
  have marks (text : List Char) : text.head? ≠ some quote.mark →
      text.takeWhile (· == quote.mark) = [] := by
    intro other
    cases text with
    | nil => rfl
    | cons first others => exact List.takeWhile_cons_of_neg (by simpa using other)
  have length_eq : ((List.replicate (count + 3) quote.mark ++ rest).takeWhile
      (· == quote.mark)).length = count + 3 := by
    rw [List.takeWhile_append_of_pos (by simp), marks rest ends]
    simp
  rw [← List.append_assoc, List.replicate_append_replicate, readPieceOfLines]
  simp only [length_eq]
  rw [if_pos (Nat.le_add_left _ _), Nat.add_sub_cancel, Nat.min_eq_left few,
    List.drop_left' List.length_replicate]

theorem readPieceOfLines_mark (quote : Quote) (rest : List Char)
    (few : ((quote.mark :: rest).takeWhile (· == quote.mark)).length ≤ 2) :
    readPieceOfLines quote (quote.mark :: rest) = some (.more [quote.mark], rest) := by
  rw [readPieceOfLines]
  simp only
  rw [if_neg (by omega)]
  cases quote <;> rfl

namespace Spelling

variable {style : QuoteStyle} {run : Nat} {body text : List Char}

/-- From any point, either there are but a few quotes left, or too few are next to close the text.
The run is that of the quotes before that point. -/
theorem marks_or_few {quote : Quote} (spelling : Spelling ⟨quote, true⟩ run body text)
    (few : run ≤ 2) (rest : List Char) :
    (∃ count, run + count ≤ 2 ∧ text = List.replicate count quote.mark ∧ body = text) ∨
      run + ((body ++ rest).takeWhile (· == quote.mark)).length ≤ 2 := by
  induction spelling with
  | nil => exact .inl ⟨0, few, rfl, rfl⟩
  | mark fits others ih =>
    rcases ih fits with ⟨count, within, rfl, rfl⟩ | within
    · exact .inl ⟨count + 1, by omega, rfl, rfl⟩
    · refine .inr ?_
      rw [List.cons_append, List.takeWhile_cons_of_pos (by simp), List.length_cons]
      omega
  | character stands others ih =>
    obtain ⟨first, others, rfl, noMark⟩ := stands.noMark
    refine .inr ?_
    rw [List.append_assoc, List.cons_append, List.takeWhile_cons_of_neg (by simpa using noMark)]
    exact few

theorem readPieces_lines {quote : Quote} (spelling : Spelling ⟨quote, true⟩ run body text)
    (few : run ≤ 2) {rest : List Char} (ends : rest.head? ≠ some quote.mark) {fuel : Nat}
    (enough : text.length < fuel) :
    readPieces (QuoteStyle.readPiece ⟨quote, true⟩) fuel
        (body ++ (List.replicate 3 quote.mark ++ rest)) = some (text, rest) := by
  induction spelling generalizing fuel with
  | nil =>
    obtain ⟨fuel, rfl⟩ : ∃ less, fuel = less + 1 := ⟨fuel - 1, by omega⟩
    exact readPieces_last (readPieceOfLines_close ends (Nat.zero_le 2)) fuel
  | @mark run body text fits others ih =>
    obtain ⟨fuel, rfl⟩ : ∃ less, fuel = less + 1 := ⟨fuel - 1, by simp at enough; omega⟩
    rcases (Spelling.mark fits others).marks_or_few few (List.replicate 3 quote.mark ++ rest) with
      ⟨count, within, same, body_eq⟩ | within
    · -- nothing but quotes is left, which the closing ones swallow
      rw [body_eq, same]
      exact readPieces_last
        (readPieceOfLines_close ends (Nat.le_trans (Nat.le_add_left _ _) within)) fuel
    · have stays := readPieceOfLines_mark quote (body ++ (List.replicate 3 quote.mark ++ rest))
        (Nat.le_trans (Nat.le_add_left _ _) within)
      exact readPieces_more stays (ih fits (by simpa using enough))
  | character stands others ih =>
    obtain ⟨fuel, rfl⟩ : ∃ less, fuel = less + 1 := ⟨fuel - 1, by simp at enough; omega⟩
    rw [List.append_assoc]
    exact readPieces_more (stands.reads _) (ih (Nat.zero_le _) (by simpa using enough))

end Spelling

/-! ### Quoted texts -/

theorem skipLineBreak_of_ne {first : Char} (noNewline : first ≠ '\n') (noReturn : first ≠ '\r')
    (rest : List Char) : skipLineBreak (first :: rest) = none := by
  unfold skipLineBreak
  split <;> simp_all

theorem readQuoted_eq_readBody {quote : Quote} {first : Char} {rest : List Char}
    (alone : ¬(first = quote.mark ∧ rest.head? = some quote.mark)) :
    readQuoted quote (first :: rest) = readBody quote (first :: rest) := by
  cases rest with
  | nil => rfl
  | cons second others =>
    rw [readQuoted, if_neg]
    rintro ⟨rfl, rfl⟩
    exact alone ⟨rfl, rfl⟩

namespace Spelling

variable {quote : Quote} {body text rest : List Char}

theorem readQuoted_line (spelling : Spelling ⟨quote, false⟩ 0 body text)
    (ends : rest.head? ≠ some quote.mark) :
    readQuoted quote (body ++ quote.mark :: rest) = some (text, rest) := by
  rw [← spelling.readBody_line rest]
  rcases spelling.not_mark (quote.mark :: rest) with rfl | ⟨first, others, body_eq, noMark⟩
  · exact readQuoted_eq_readBody (fun marks => ends marks.2)
  · rw [body_eq]
    exact readQuoted_eq_readBody (fun marks => noMark marks.1)

theorem readQuoted_lines (spelling : Spelling ⟨quote, true⟩ 0 body text)
    (ends : rest.head? ≠ some quote.mark) :
    readQuoted quote
        (quote.mark :: quote.mark ::
          ((if text.contains '\n' then ['\n'] else []) ++
            (body ++ (List.replicate 3 quote.mark ++ rest)))) = some (text, rest) := by
  have dropped :
      (skipLineBreak ((if text.contains '\n' then ['\n'] else []) ++
        (body ++ (List.replicate 3 quote.mark ++ rest)))).getD
          ((if text.contains '\n' then ['\n'] else []) ++
            (body ++ (List.replicate 3 quote.mark ++ rest))) =
        body ++ (List.replicate 3 quote.mark ++ rest) := by
    split
    · rfl
    · rename_i oneLine
      have noNewline : quote.mark ≠ '\n' := by cases quote <;> decide
      have noReturn : quote.mark ≠ '\r' := by cases quote <;> decide
      have noBreak : skipLineBreak (body ++ (List.replicate 3 quote.mark ++ rest)) = none := by
        cases spelling with
        | nil => exact skipLineBreak_of_ne noNewline noReturn _
        | mark fits others => exact skipLineBreak_of_ne noNewline noReturn _
        | character stands others =>
          rw [List.append_assoc]
          exact stands.noBreak (by rintro rfl; simp at oneLine) _
      rw [List.nil_append, noBreak]
      rfl
  have shorter := spelling.length_le
  rw [readQuoted, if_pos ⟨rfl, rfl⟩, readBodyOfLines, dropped]
  exact spelling.readPieces_lines (Nat.zero_le 2) ends (by simp; omega)

end Spelling

end LineEcho.Toml
