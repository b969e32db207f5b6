import LineEcho.Proofs.Toml.Spelling
import LineEcho.Toml.Reader

/-!
# Quoted texts

A text is read back from any of the styles in which it may be written.  Between double quotes
everything that a reader would take for something else is escaped, in whatever style; between single
quotes nothing is, so a text goes there only if it holds nothing of that kind.
-/

namespace LineEcho.Toml

/-! ### Pieces -/

theorem digit?_upperDigit {value : Nat} (small : value < 16) :
    Text.digit? 16 (upperDigit value) = some value := by
  revert value
  decide

theorem readNumbered_fourDigits (character : Char) (small : character.toNat < 65536)
    (rest : List Char) :
    readNumbered 4 (fourDigits character.toNat ++ rest) = some (character, rest) := by
  have digit (value : Nat) : Text.digit? 16 (upperDigit (value % 16)) = some (value % 16) :=
    digit?_upperDigit (Nat.mod_lt _ (by decide))
  have all : (fourDigits character.toNat).all (Text.isDigitOf 16) = true := by
    simp [fourDigits, Text.isDigitOf, digit]
  have number : Text.numberOf 16 (fourDigits character.toNat) = character.toNat := by
    simp only [fourDigits, Text.numberOf, List.map_cons, List.map_nil, List.foldl_cons,
      List.foldl_nil, digit, Option.getD_some]
    omega
  have taken : (fourDigits character.toNat ++ rest).take 4 = fourDigits character.toNat := rfl
  have left : (fourDigits character.toNat ++ rest).drop 4 = rest := rfl
  simp only [readNumbered, taken, left, all, number]
  rw [if_pos ⟨rfl, trivial, character.valid⟩, Char.ofNat_toNat]

/-- Neither a quote nor a line break, nor the escape of one: nothing but a single character. -/
theorem readPiece_of_ne {quote : Quote} {ofLines : Bool} {first : Char}
    (noMark : first ≠ quote.mark) (noNewline : first ≠ '\n') (noReturn : first ≠ '\r')
    {rest : List Char} (noJoint : quote = .double → first = '\\' → skipJoint rest = none) :
    QuoteStyle.readPiece ⟨quote, ofLines⟩ (first :: rest) =
      readCharacter quote (first :: rest) := by
  cases ofLines with
  | false =>
    show readPiece quote (first :: rest) = _
    rw [readPiece, if_neg noMark]
  | true =>
    have joint : (if quote = .double then (expect '\\' (first :: rest)).bind skipJoint else none) =
        none := by
      by_cases escapes : quote = .double ∧ first = '\\'
      · rw [if_pos escapes.1, expect, if_pos escapes.2]
        exact noJoint escapes.1 escapes.2
      · split
        · rename_i double
          rw [expect, if_neg (fun same => escapes ⟨double, same⟩)]
          rfl
        · rfl
    show readPieceOfLines quote (first :: rest) = _
    rw [readPieceOfLines]
    simp only
    rw [List.takeWhile_cons_of_neg (by simpa using noMark), if_neg (by simp),
      skipLineBreak_of_ne noNewline noReturn]
    simp only
    rw [joint]

theorem ne_of_isPlain {character : Char} (plain : isPlain character = true) :
    character ≠ '\n' ∧ character ≠ '\r' := by
  constructor <;> rintro rfl <;> exact absurd plain (by decide)

theorem stands_plain {quote : Quote} (ofLines : Bool) {character : Char}
    (plain : isPlain character = true) (noMark : character ≠ quote.mark)
    (noEscape : quote = .double → character ≠ '\\') :
    Stands ⟨quote, ofLines⟩ [character] character := by
  obtain ⟨noNewline, noReturn⟩ := ne_of_isPlain plain
  refine ⟨fun more => ?_, ⟨character, [], rfl, noMark⟩,
    fun _ more => skipLineBreak_of_ne noNewline noReturn _⟩
  rw [List.singleton_append, readPiece_of_ne noMark noNewline noReturn
    (fun double escapes => absurd escapes (noEscape double)), readCharacter,
    if_neg (fun escapes => noEscape escapes.1 escapes.2), if_pos plain]

theorem stands_newline (quote : Quote) : Stands ⟨quote, true⟩ ['\n'] '\n' := by
  refine ⟨fun more => ?_, ⟨'\n', [], rfl, ?_⟩, fun other => absurd rfl other⟩
  · cases quote <;> rfl
  · cases quote <;> decide

theorem stands_escape (ofLines : Bool) {code : List Char} {character : Char}
    (reads : ∀ more, readEscape (code ++ more) = some (character, more))
    (noJoint : ∀ more, skipJoint (code ++ more) = none) :
    Stands ⟨.double, ofLines⟩ ('\\' :: code) character := by
  refine ⟨fun more => ?_, ⟨'\\', code, rfl, by simp [Quote.mark]⟩,
    fun _ more => skipLineBreak_of_ne (by decide) (by decide) _⟩
  rw [List.cons_append, readPiece_of_ne (by decide) (by decide) (by decide)
    (fun _ _ => noJoint more), readCharacter, if_pos ⟨rfl, rfl⟩, reads]
  rfl

theorem toNat_lt_of_not_plain {character : Char} (special : isPlain character = false) :
    character.toNat < 65536 := by
  by_cases printable : ' ' ≤ character
  · obtain ⟨_, others⟩ := Bool.or_eq_false_iff.1 special
    have delete : character = '\x7F' := by simpa [printable] using others
    subst delete
    decide
  · have below : character.toNat < ' '.toNat := Nat.lt_of_not_le printable
    exact Nat.lt_trans below (by decide)

theorem stands_escaped (ofLines : Bool) {character : Char} (noMark : character ≠ '"') :
    Stands ⟨.double, ofLines⟩ (escaped ofLines character) character := by
  by_cases backspace : character = '\x08'
  · subst backspace
    exact stands_escape ofLines (fun _ => rfl) (fun _ => rfl)
  by_cases tab : character = '\t'
  · subst tab
    exact stands_escape ofLines (fun _ => rfl) (fun _ => rfl)
  by_cases newline : character = '\n'
  · subst newline
    cases ofLines with
    | true => exact stands_newline .double
    | false => exact stands_escape false (fun _ => rfl) (fun _ => rfl)
  by_cases formFeed : character = '\x0C'
  · subst formFeed
    exact stands_escape ofLines (fun _ => rfl) (fun _ => rfl)
  by_cases carriageReturn : character = '\r'
  · subst carriageReturn
    exact stands_escape ofLines (fun _ => rfl) (fun _ => rfl)
  by_cases backslash : character = '\\'
  · subst backslash
    exact stands_escape ofLines (fun _ => rfl) (fun _ => rfl)
  simp only [escaped, if_neg backspace, if_neg tab, if_neg newline, if_neg formFeed,
    if_neg carriageReturn, if_neg backslash]
  split
  · rename_i plain
    exact stands_plain ofLines plain noMark (fun _ => backslash)
  · rename_i special
    rw [Bool.not_eq_true] at special
    exact stands_escape ofLines
      (fun more => readNumbered_fourDigits character (toNat_lt_of_not_plain special) more)
      (fun _ => rfl)

/-! ### Styles -/

theorem spelling_escapedAfter (ofLines : Bool) (run : Nat) (text : List Char) :
    Spelling ⟨.double, ofLines⟩ run (escapedAfter ofLines run text) text := by
  induction text generalizing run with
  | nil => exact .nil run
  | cons character rest ih =>
    rw [escapedAfter]
    by_cases quote : character = '"'
    · subst quote
      rw [if_pos rfl]
      by_cases fits : run < (if ofLines then 2 else 0)
      · rw [if_pos fits]
        exact .mark fits (ih (run + 1))
      · have escape : Stands ⟨.double, ofLines⟩ ['\\', '"'] '"' :=
          stands_escape ofLines (fun _ => rfl) (fun _ => rfl)
        rw [if_neg fits]
        exact .character escape (ih 0)
    · rw [if_neg quote]
      exact .character (stands_escaped ofLines quote) (ih 0)

theorem le_longestRun (character : Char) (run : Nat) (text : List Char) :
    run ≤ longestRun character run text := by
  induction text generalizing run with
  | nil => exact Nat.le_refl run
  | cons first rest ih =>
    rw [longestRun]
    split
    · exact Nat.le_of_succ_le (ih (run + 1))
    · exact Nat.le_max_left _ _

/-- Between single quotes everything stands for itself. -/
theorem spelling_self {ofLines : Bool} {run : Nat} {text : List Char}
    (controlled : text.any isControl = false) (noLines : ofLines = false → '\n' ∉ text)
    (few : longestRun '\'' run text ≤ QuoteStyle.together ⟨.single, ofLines⟩) :
    Spelling ⟨.single, ofLines⟩ run text text := by
  induction text generalizing run with
  | nil => exact .nil run
  | cons character rest ih =>
    rw [List.any_cons, Bool.or_eq_false_iff] at controlled
    have restNoLines (oneLine : ofLines = false) : '\n' ∉ rest :=
      fun member => noLines oneLine (List.mem_cons_of_mem _ member)
    rw [longestRun] at few
    by_cases quote : character = '\''
    · subst quote
      rw [if_pos rfl] at few
      exact .mark (Nat.lt_of_lt_of_le (le_longestRun _ (run + 1) rest) few)
        (ih controlled.2 restNoLines few)
    · rw [if_neg quote] at few
      have others := ih controlled.2 restNoLines (Nat.le_trans (Nat.le_max_right _ _) few)
      have stands : Stands ⟨.single, ofLines⟩ [character] character := by
        by_cases newline : character = '\n'
        · subst newline
          cases ofLines with
          | true => exact stands_newline .single
          | false => exact absurd (List.mem_cons_self ..) (noLines rfl)
        · have plain : isPlain character = true := by simpa [isControl, newline] using controlled.1
          exact stands_plain ofLines plain quote nofun
      exact .character stands others

/-- What a text is written as between its quotes. -/
def QuoteStyle.body (style : QuoteStyle) (text : List Char) : List Char :=
  match style.quote with
  | .double => escapedAfter style.ofLines 0 text
  | .single => text

/-- Every text is spelled in the style that is chosen for it. -/
theorem spelling_of (text : List Char) :
    Spelling (QuoteStyle.of text) 0 ((QuoteStyle.of text).body text) text := by
  unfold QuoteStyle.of
  simp only
  split
  · exact spelling_escapedAfter false 0 text
  · split
    · rename_i fits
      simp only [Bool.and_eq_true, Bool.not_eq_true', decide_eq_true_eq] at fits
      obtain ⟨⟨controlled, none⟩, oneLine⟩ := fits
      have noNewline : '\n' ∉ text := by simpa using oneLine
      exact spelling_self controlled (fun _ => noNewline) (Nat.le_of_eq none)
    · split
      · exact spelling_escapedAfter true 0 text
      · split
        · rename_i fits
          simp only [Bool.and_eq_true, Bool.not_eq_true', decide_eq_true_eq] at fits
          exact spelling_self fits.1 nofun fits.2
        · exact spelling_escapedAfter (text.contains '\n') 0 text

theorem QuoteStyle.write_eq (style : QuoteStyle) (text : List Char) :
    style.write text =
      style.marks ++ (if style.ofLines && text.contains '\n' then ['\n'] else []) ++
        style.body text ++ style.marks :=
  rfl

theorem exists_mark_writeQuoted (text : List Char) :
    ∃ (quote : Quote) (others : List Char), writeQuoted text = quote.mark :: others := by
  rw [writeQuoted, QuoteStyle.write_eq]
  obtain ⟨quote, ofLines⟩ := QuoteStyle.of text
  cases ofLines <;> exact ⟨quote, _, rfl⟩

/-- A text is read back from the way it is written, if no quote follows. -/
theorem readScalar_writeQuoted (text : List Char) {rest : List Char}
    (ends : ∀ quote : Quote, rest.head? ≠ some quote.mark) :
    readScalar (writeQuoted text ++ rest) = some (.text (String.ofList text), rest) := by
  have spelling := spelling_of text
  rw [writeQuoted, QuoteStyle.write_eq]
  generalize QuoteStyle.of text = style at spelling
  obtain ⟨quote, ofLines⟩ := style
  have first (more : List Char) : readScalar (quote.mark :: more) =
      (readQuoted quote more).map
        (fun read => (.text (String.ofList read.1), read.2)) := by
    cases quote <;> rfl
  cases ofLines with
  | false =>
    have read := spelling.readQuoted_line (ends quote)
    simp only [QuoteStyle.marks, Bool.false_and, Bool.false_eq_true, if_false, List.replicate_one,
      List.append_nil, List.append_assoc, List.cons_append, List.nil_append, first]
    rw [read]
    rfl
  | true =>
    have read := spelling.readQuoted_lines (ends quote)
    simp only [List.replicate_succ, List.replicate_zero, List.cons_append, List.nil_append] at read
    simp only [QuoteStyle.marks, Bool.true_and, if_true, List.replicate_succ, List.replicate_zero,
      List.append_assoc, List.cons_append, List.nil_append, first]
    rw [read]
    rfl

end LineEcho.Toml
