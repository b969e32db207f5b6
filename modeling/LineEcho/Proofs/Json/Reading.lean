import LineEcho.Proofs.Json.Reader
import LineEcho.Proofs.Toml.Number

/-!
# Documents are read back

A document that has been written is read back as the value that it was written for.  What follows it
is left alone, as long as that does not go on a number with which the document ends.  So a text that
is one document is accepted, and two documents after one another are not.
-/

namespace LineEcho.Json

open Toml (areDigits_toDigits numberOf_toDigits head?_toDigits ne_of_test)

/-! ### Texts -/

theorem digit?_digitChar {value : Nat} (small : value < 16) :
    Text.digit? 16 (Nat.digitChar value) = some value := by
  revert value
  decide

theorem readEscape_numbered {character : Char} (small : character.toNat < 256)
    (rest : List Char) :
    readEscape ('u' :: '0' :: '0' :: Nat.digitChar (character.toNat / 16) ::
      Nat.digitChar (character.toNat % 16) :: rest) = some (character, rest) := by
  have high : Text.digit? 16 (Nat.digitChar (character.toNat / 16)) =
      some (character.toNat / 16) := digit?_digitChar (by omega)
  have low : Text.digit? 16 (Nat.digitChar (character.toNat % 16)) =
      some (character.toNat % 16) := digit?_digitChar (by omega)
  have zero : Text.digit? 16 '0' = some 0 := by decide
  have value_eq : character.toNat / 16 * 16 + character.toNat % 16 = character.toNat := by omega
  have isValid : character.toNat.isValidChar := character.valid
  simp only [readEscape, List.mapM_cons, List.mapM_nil, zero, high, low, Option.bind_eq_bind,
    Option.bind_some, Option.pure_def, List.foldl_cons, List.foldl_nil, Nat.zero_mul, Nat.zero_add,
    value_eq, if_pos isValid, Char.ofNat_toNat]

/-- A character stands for itself, unless it is escaped. -/
theorem escaped_cases (character : Char) :
    (escaped character = [character] ∧ character ≠ '"' ∧ character ≠ '\\' ∧ ¬character < ' ') ∨
      ∃ letters, escaped character = '\\' :: letters ∧
        ∀ rest, readEscape (letters ++ rest) = some (character, rest) := by
  by_cases named : character ∈ ['"', '\\', '\x08', '\t', '\n', '\x0C', '\r']
  · right
    simp only [List.mem_cons, List.not_mem_nil, or_false] at named
    rcases named with rfl | rfl | rfl | rfl | rfl | rfl | rfl
    all_goals exact ⟨[_], rfl, fun _ => rfl⟩
  · simp only [List.mem_cons, List.not_mem_nil, or_false, not_or] at named
    obtain ⟨quote, backslash, backspace, tab, newline, feed, carriageReturn⟩ := named
    simp only [escaped, quote, backslash, backspace, tab, newline, feed, carriageReturn, if_false]
    by_cases control : character < ' '
    · rw [if_pos control]
      have small : character.toNat < 32 := control
      exact .inr ⟨_, rfl, readEscape_numbered (Nat.lt_trans small (by decide))⟩
    · rw [if_neg control]
      exact .inl ⟨rfl, quote, backslash, control⟩

/-- One character of a text is read back, however it had to be written. -/
theorem readBody_escaped (count : Nat) (character : Char) (rest : List Char) :
    readBody (count + 1) (escaped character ++ rest) =
      (readBody count rest).map (fun (body, rest) => (character :: body, rest)) := by
  obtain ⟨plain, noQuote, noBackslash, noControl⟩ | ⟨letters, marked, read⟩ :=
    escaped_cases character
  · rw [plain, List.singleton_append, readBody, if_neg noQuote, if_neg noBackslash,
      if_neg noControl]
    cases readBody count rest <;> rfl
  · rw [marked, List.cons_append, readBody, if_neg (by decide), if_pos rfl, read rest]
    simp only [Option.bind_eq_bind, Option.bind_some]
    cases readBody count rest <;> rfl

theorem readBody_flatMap {count : Nat} {body : List Char} (within : body.length < count)
    (rest : List Char) :
    readBody count (body.flatMap escaped ++ '"' :: rest) = some (body, rest) := by
  induction body generalizing count with
  | nil =>
    obtain ⟨less, rfl⟩ := Nat.exists_eq_succ_of_ne_zero (Nat.ne_of_gt within)
    rfl
  | cons character others ih =>
    obtain ⟨less, rfl⟩ := Nat.exists_eq_succ_of_ne_zero (Nat.ne_zero_of_lt within)
    rw [List.flatMap_cons, List.append_assoc, readBody_escaped,
      ih (Nat.lt_of_succ_lt_succ within)]
    rfl

theorem length_le_flatMap (body : List Char) : body.length ≤ (body.flatMap escaped).length := by
  induction body with
  | nil => exact Nat.le_refl 0
  | cons character others ih =>
    have nonempty : 0 < (escaped character).length := by
      obtain ⟨plain, -⟩ | ⟨letters, marked, -⟩ := escaped_cases character
      · simp [plain]
      · simp [marked]
    rw [List.flatMap_cons, List.length_append, List.length_cons]
    omega

theorem readText_writeText (content : String) (rest : List Char) :
    readText (writeText content ++ rest) = some (content, rest) := by
  have within : content.toList.length <
      (content.toList.flatMap escaped ++ '"' :: rest).length := by
    have := length_le_flatMap content.toList
    rw [List.length_append, List.length_cons]
    omega
  have text_eq : writeText content ++ rest =
      '"' :: (content.toList.flatMap escaped ++ '"' :: rest) := by
    simp [writeText]
  rw [text_eq, readText, readBody_flatMap within, Option.map_some]
  exact congrArg (fun name => some (name, rest)) String.ofList_toList

/-! ### Numbers -/

/-- A text that does not go on a number. -/
def EndsNumber (rest : List Char) : Prop :=
  ∀ character ∈ rest.head?, character.isDigit = false

theorem endsNumber_cons {character : Char} (noDigit : character.isDigit = false)
    (rest : List Char) : EndsNumber (character :: rest) := by
  rintro _ ⟨⟩
  exact noDigit

theorem EndsNumber.takeWhile_eq {rest : List Char} (ends : EndsNumber rest) :
    rest.takeWhile Char.isDigit = [] ∧ rest.dropWhile Char.isDigit = rest := by
  cases rest with
  | nil => exact ⟨rfl, rfl⟩
  | cons first others =>
    have noDigit := ends first rfl
    exact ⟨List.takeWhile_cons_of_neg (by simp [noDigit]),
      List.dropWhile_cons_of_neg (by simp [noDigit])⟩

theorem readNumber_toDigits (number : Nat) {rest : List Char} (ends : EndsNumber rest) :
    readNumber (Nat.toDigits 10 number ++ rest) = some (number, rest) := by
  have areDigits := areDigits_toDigits number
  have taken :
      (Nat.toDigits 10 number ++ rest).takeWhile Char.isDigit = Nat.toDigits 10 number := by
    rw [List.takeWhile_append_of_pos areDigits.all, ends.takeWhile_eq.1, List.append_nil]
  have left : (Nat.toDigits 10 number ++ rest).dropWhile Char.isDigit = rest := by
    rw [List.dropWhile_append_of_pos areDigits.all, ends.takeWhile_eq.2]
  have noZero : ¬((Nat.toDigits 10 number).head? = some '0' ∧ Nat.toDigits 10 number ≠ ['0']) := by
    rintro ⟨zero, others⟩
    by_cases positive : 0 < number
    · exact head?_toDigits positive zero
    · obtain rfl := Nat.eq_zero_of_not_pos positive
      exact others rfl
  simp only [readNumber, taken, left, numberOf_toDigits]
  exact if_neg (not_or.2 ⟨by simp, noZero⟩)

/-! ### Values -/

theorem skipSpace_newline (depth : Nat) (text : List Char) :
    skipSpace (newline depth ++ text) = skipSpace text := by
  have blanks : ∀ character ∈ newline depth,
      (character == ' ' || character == '\t' || character == '\n' || character == '\r') = true := by
    intro character member
    rcases List.mem_cons.1 member with rfl | member
    · rfl
    · rw [List.eq_of_mem_replicate member]
      rfl
  exact List.dropWhile_append_of_pos blanks

theorem skipSpace_writeText (name : String) (rest : List Char) :
    skipSpace (writeText name ++ rest) = writeText name ++ rest :=
  rfl

theorem skipSpace_write (value : Value) (depth : Nat) (rest : List Char) :
    skipSpace (value.write depth ++ rest) = value.write depth ++ rest := by
  cases value with
  | boolean value => cases value <;> rfl
  | number value =>
    obtain ⟨first, others, digits_eq, isDigit⟩ := (areDigits_toDigits value).exists_cons
    have noBlank := ne_of_test isDigit (show (' ').isDigit = false by decide)
    have noTab := ne_of_test isDigit (show ('\t').isDigit = false by decide)
    have noNewline := ne_of_test isDigit (show ('\n').isDigit = false by decide)
    have noReturn := ne_of_test isDigit (show ('\r').isDigit = false by decide)
    rw [Value.write, digits_eq, List.cons_append]
    exact List.dropWhile_cons_of_neg (by simp [noBlank, noTab, noNewline, noReturn])
  | text content => rfl
  | object fields =>
    cases fields with
    | nil => rfl
    | cons field fields => rfl

theorem readValue_number (fuel number : Nat) {rest : List Char} (ends : EndsNumber rest) :
    readValue (fuel + 1) (Nat.toDigits 10 number ++ rest) = some (.number number, rest) := by
  have read := readNumber_toDigits number ends
  obtain ⟨first, others, digits_eq, isDigit⟩ := (areDigits_toDigits number).exists_cons
  have noTrue := ne_of_test isDigit (show ('t').isDigit = false by decide)
  have noFalse := ne_of_test isDigit (show ('f').isDigit = false by decide)
  have noQuote := ne_of_test isDigit (show ('"').isDigit = false by decide)
  have noBrace := ne_of_test isDigit (show ('\x7b').isDigit = false by decide)
  rw [digits_eq] at read ⊢
  rw [List.cons_append] at read ⊢
  simp [readValue, noTrue, noFalse, noQuote, noBrace, read]

theorem writeFields_false (depth : Nat) (field : String × Value)
    (fields : List (String × Value)) :
    Value.writeFields depth false (field :: fields) =
      ',' :: Value.writeFields depth true (field :: fields) :=
  rfl

section Field

variable {reader : List Char → Option (Value × List Char)} {value : Value} {depth : Nat}
  {after rest : List Char}

theorem skipSpace_colon (text : List Char) : skipSpace (':' :: text) = ':' :: text :=
  rfl

theorem skipSpace_blank (text : List Char) : skipSpace (' ' :: text) = skipSpace text :=
  rfl

/-- A named value is read back, and so are those after the comma that follows it. -/
theorem readFields_more (read : reader (value.write depth ++ after) = some (value, after))
    (comma : skipSpace after = ',' :: rest) (count : Nat) (name : String) :
    readFields reader (count + 1)
        (newline depth ++ (writeText name ++ (':' :: ' ' :: (value.write depth ++ after)))) =
      (readFields reader count rest).map
        (fun (others, rest) => ((name, value) :: others, rest)) := by
  rw [readFields, skipSpace_newline, skipSpace_writeText, readText_writeText]
  simp only [Option.bind_eq_bind, Option.bind_some, skipSpace_colon, skipSpace_blank,
    skipSpace_write, read, comma]
  cases readFields reader count rest <;> rfl

/-- The last one of the named values is read back. -/
theorem readFields_last (read : reader (value.write depth ++ after) = some (value, after))
    (brace : skipSpace after = '\x7d' :: rest) (count : Nat) (name : String) :
    readFields reader (count + 1)
        (newline depth ++ (writeText name ++ (':' :: ' ' :: (value.write depth ++ after)))) =
      some ([(name, value)], rest) := by
  rw [readFields, skipSpace_newline, skipSpace_writeText, readText_writeText]
  simp only [Option.bind_eq_bind, Option.bind_some, skipSpace_colon, skipSpace_blank,
    skipSpace_write, read, brace]

end Field

/-- Named values are read back by a reader that reads back each of them. -/
theorem readFields_writeFields {reader : List Char → Option (Value × List Char)} {depth : Nat}
    {fields : List (String × Value)} (nonempty : fields ≠ [])
    (reads : ∀ field ∈ fields, ∀ rest, EndsNumber rest →
      reader (field.2.write depth ++ rest) = some (field.2, rest))
    {count : Nat} (many : fields.length ≤ count) (outer : Nat) (rest : List Char) :
    readFields reader count
        (Value.writeFields depth true fields ++ (newline outer ++ '\x7d' :: rest)) =
      some (fields, rest) := by
  induction fields generalizing count with
  | nil => exact absurd rfl nonempty
  | cons field others ih =>
    obtain ⟨name, value⟩ := field
    obtain ⟨readsFirst, readsOthers⟩ := List.forall_mem_cons.1 reads
    obtain ⟨less, rfl⟩ := Nat.exists_eq_succ_of_ne_zero (Nat.ne_zero_of_lt many)
    cases others with
    | nil =>
      have ends : EndsNumber (newline outer ++ '\x7d' :: rest) := endsNumber_cons rfl _
      have text_eq : Value.writeFields depth true [(name, value)] ++
            (newline outer ++ '\x7d' :: rest) =
          newline depth ++ (writeText name ++
            (':' :: ' ' :: (value.write depth ++ (newline outer ++ '\x7d' :: rest)))) := by
        simp [Value.writeFields]
      rw [text_eq]
      exact readFields_last (readsFirst _ ends) (skipSpace_newline outer _) less name
    | cons second others =>
      have text_eq : Value.writeFields depth true ((name, value) :: second :: others) ++
            (newline outer ++ '\x7d' :: rest) =
          newline depth ++ (writeText name ++ (':' :: ' ' :: (value.write depth ++
            ',' :: (Value.writeFields depth true (second :: others) ++
              (newline outer ++ '\x7d' :: rest))))) := by
        rw [Value.writeFields, writeFields_false]
        simp
      have ends : EndsNumber (',' :: (Value.writeFields depth true (second :: others) ++
          (newline outer ++ '\x7d' :: rest))) := endsNumber_cons rfl _
      rw [text_eq, readFields_more (readsFirst _ ends) rfl,
        ih (List.cons_ne_nil _ _) readsOthers (Nat.le_of_succ_le_succ many)]
      rfl

theorem length_write_le_writeFields (depth : Nat) (isFirst : Bool)
    {fields : List (String × Value)} {field : String × Value} (member : field ∈ fields) :
    (field.2.write depth).length ≤ (Value.writeFields depth isFirst fields).length := by
  induction fields generalizing isFirst with
  | nil => contradiction
  | cons first others ih =>
    rw [Value.writeFields]
    simp only [List.length_append]
    rcases List.mem_cons.1 member with rfl | member
    · omega
    · have := ih false member
      omega

theorem length_le_writeFields (depth : Nat) (isFirst : Bool) (fields : List (String × Value)) :
    fields.length ≤ (Value.writeFields depth isFirst fields).length := by
  induction fields generalizing isFirst with
  | nil => exact Nat.zero_le _
  | cons first others ih =>
    have := ih false
    rw [Value.writeFields]
    simp only [List.length_append, List.length_cons, List.length_nil]
    omega

theorem skipSpace_writeFields (depth : Nat) (field : String × Value)
    (fields : List (String × Value)) (rest : List Char) :
    ∃ more, skipSpace (Value.writeFields depth true (field :: fields) ++ rest) = '"' :: more := by
  simp only [Value.writeFields, if_true, List.nil_append, List.append_assoc, skipSpace_newline,
    skipSpace_writeText]
  exact ⟨_, rfl⟩

theorem readValue_brace (fuel : Nat) {text more : List Char} {first : Char}
    (opens : skipSpace text = first :: more) (noBrace : first ≠ '\x7d') :
    readValue (fuel + 1) ('\x7b' :: text) =
      (readFields (readValue fuel) text.length text).map
        (fun (fields, rest) => (.object fields, rest)) := by
  rw [readValue, opens]
  split
  · rename_i same
    cases same
    contradiction
  · rfl

/-- An object is read back by a reader inside of which each of its values is. -/
theorem readValue_object {fuel depth : Nat} {field : String × Value}
    {fields : List (String × Value)}
    (reads : ∀ inner ∈ field :: fields, ∀ rest, EndsNumber rest →
      readValue fuel (inner.2.write (depth + 1) ++ rest) = some (inner.2, rest))
    (rest : List Char) :
    readValue (fuel + 1) ((Value.object (field :: fields)).write depth ++ rest) =
      some (.object (field :: fields), rest) := by
  have written : (Value.object (field :: fields)).write depth ++ rest =
      '\x7b' :: (Value.writeFields (depth + 1) true (field :: fields) ++
        (newline depth ++ '\x7d' :: rest)) := by
    simp [Value.write]
  have many : (field :: fields).length ≤
      (Value.writeFields (depth + 1) true (field :: fields) ++
        (newline depth ++ '\x7d' :: rest)).length := by
    have := length_le_writeFields (depth + 1) true (field :: fields)
    rw [List.length_append]
    omega
  have read := readFields_writeFields (List.cons_ne_nil field fields) reads many depth rest
  obtain ⟨more, opens⟩ := skipSpace_writeFields (depth + 1) field fields
    (newline depth ++ '\x7d' :: rest)
  rw [written, readValue_brace fuel opens (by decide), read]
  rfl

/-- A value is read back by a reader that goes deep enough. -/
theorem readValue_write {fuel : Nat} {value : Value} {depth : Nat}
    (deep : (value.write depth).length < fuel) {rest : List Char} (ends : EndsNumber rest) :
    readValue fuel (value.write depth ++ rest) = some (value, rest) := by
  -- the values of an object are shorter than the object, so the reader inside goes deep enough
  induction fuel generalizing value depth rest with
  | zero => contradiction
  | succ fuel ih =>
    cases value with
    | boolean value => cases value <;> rfl
    | number number => exact readValue_number fuel number ends
    | text content =>
      show (readText (writeText content ++ rest)).map _ = _
      rw [readText_writeText]
      rfl
    | object fields =>
      cases fields with
      | nil => rfl
      | cons field fields =>
        refine readValue_object (fun inner member rest ends => ih ?_ ends) rest
        have shorter := length_write_le_writeFields (depth + 1) true member
        simp only [Value.write, List.length_append, List.length_cons] at deep
        omega

/-- A document with a line break at its end is read back, unless something else follows. -/
theorem parse?_pretty_append (value : Value) (more : String) :
    Value.parse? (value.pretty ++ "\n" ++ more) =
      if (skipSpace more.toList).isEmpty then some value else none := by
  have text_eq : (value.pretty ++ "\n" ++ more).toList =
      value.write 0 ++ '\n' :: more.toList := by
    simp [Value.pretty]
  have deep : (value.write 0).length < (value.write 0 ++ '\n' :: more.toList).length + 1 := by
    rw [List.length_append]
    omega
  have left : skipSpace ('\n' :: more.toList) = skipSpace more.toList := rfl
  have read := readValue_write deep
    (endsNumber_cons (show ('\n').isDigit = false by decide) more.toList)
  simp only [Value.parse?, text_eq, skipSpace_write, Option.bind_eq_bind, read, Option.bind_some,
    left]

theorem parse?_pretty (value : Value) : Value.parse? (value.pretty ++ "\n") = some value := by
  have read := parse?_pretty_append value ""
  rwa [String.append_empty] at read

end LineEcho.Json
