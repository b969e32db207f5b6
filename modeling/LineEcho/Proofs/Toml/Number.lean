import LineEcho.Toml.Reader

/-!
# Natural numbers

A natural number in decimal is read back at the end of its line, if an integer of a document can
hold it.  It is neither a date nor a time, because no hyphen and no colon follows its digits, nor is
it a number with a fraction.
-/

namespace LineEcho.Toml

/-- Characters differ if a test tells them apart. -/
theorem ne_of_test {test : Char → Bool} {first second : Char} (holds : test first = true)
    (fails : test second = false) : first ≠ second := by
  rintro rfl
  rw [holds] at fails
  contradiction

/-- Decimal digits, at least one. -/
structure AreDigits (digits : List Char) : Prop where
  nonempty : digits ≠ []
  all : ∀ character ∈ digits, character.isDigit = true

theorem areDigits_toDigits (number : Nat) : AreDigits (Nat.toDigits 10 number) :=
  ⟨Nat.toDigits_ne_nil, fun _ => Nat.isDigit_of_mem_toDigits (by decide) (by decide)⟩

theorem digit?_of_isDigit {character : Char} (isDigit : character.isDigit = true) :
    Text.digit? 10 character = some (character.toNat - '0'.toNat) := by
  obtain ⟨least, greatest⟩ : '0'.toNat ≤ character.toNat ∧ character.toNat ≤ '9'.toNat := by
    simpa [Char.isDigit, UInt32.le_iff_toNat_le] using isDigit
  have value_lt : character.toNat - '0'.toNat < 10 := by
    have := Nat.sub_le_sub_right greatest '0'.toNat
    exact Nat.lt_of_le_of_lt this (by decide)
  unfold Text.digit?
  simp only
  rw [if_pos ⟨least, greatest⟩]
  exact Option.filter_some_pos (by simpa using value_lt)

theorem isDigitOf_of_isDigit {character : Char} (isDigit : character.isDigit = true) :
    Text.isDigitOf 10 character = true := by
  rw [Text.isDigitOf, digit?_of_isDigit isDigit]
  rfl

theorem numberOf_toDigits (number : Nat) : Text.numberOf 10 (Nat.toDigits 10 number) = number := by
  have fold (digits : List Char) (all : ∀ character ∈ digits, character.isDigit = true)
      (total : Nat) :
      digits.foldl (fun total character => total * 10 + (Text.digit? 10 character).getD 0) total =
        Nat.ofDigitChars 10 digits total := by
    induction digits generalizing total with
    | nil => rfl
    | cons first rest ih =>
      have others (character : Char) (member : character ∈ rest) : character.isDigit = true :=
        all character (List.mem_cons_of_mem _ member)
      rw [List.foldl_cons, ih others, Nat.ofDigitChars_cons,
        digit?_of_isDigit (all first (List.mem_cons_self ..)), Nat.mul_comm]
      rfl
  rw [Text.numberOf, fold _ (areDigits_toDigits number).all, Nat.ofDigitChars_ten_toDigits]

/-- No zero stands in front, unless the number is zero. -/
theorem head?_toDigits {number : Nat} (positive : 0 < number) :
    (Nat.toDigits 10 number).head? ≠ some '0' := by
  induction number using Nat.base_induction 10 (by decide) with
  | single value small =>
    rw [Nat.toDigits_of_lt_base small]
    simp
    omega
  | digit value last small valuePositive ih =>
    have first := ih valuePositive
    rw [← Nat.toDigits_append_toDigits (by decide) valuePositive small]
    cases digits : Nat.toDigits 10 value with
    | nil => exact absurd digits Nat.toDigits_ne_nil
    | cons digit others => simpa [digits] using first

namespace AreDigits

variable {digits rest : List Char}

theorem spanDigits (areDigits : AreDigits digits) (rest : List Char) :
    spanDigits 10 (digits ++ '\n' :: rest) = (digits, '\n' :: rest) := by
  have all := areDigits.all
  clear areDigits
  induction digits with
  | nil => cases rest <;> rfl
  | cons first others ih =>
    have others_eq := ih (fun character member => all character (List.mem_cons_of_mem _ member))
    obtain ⟨second, more, following⟩ : ∃ second more, others ++ '\n' :: rest = second :: more :=
      List.exists_cons_of_ne_nil (by simp)
    rw [following] at others_eq
    rw [List.cons_append, following, Toml.spanDigits,
      if_pos (isDigitOf_of_isDigit (all first (List.mem_cons_self ..))), others_eq]

/-- Neither a hyphen nor a colon follows any of the digits. -/
theorem expect_drop (areDigits : AreDigits digits) (count : Nat) {mark : Char}
    (noDigit : mark.isDigit = false) (noNewline : mark ≠ '\n') :
    expect mark (digits.drop count ++ '\n' :: rest) = none := by
  cases left : digits.drop count with
  | nil => exact if_neg (Ne.symm noNewline)
  | cons first others =>
    have member : first ∈ digits := List.mem_of_mem_drop (left ▸ List.mem_cons_self ..)
    exact if_neg (ne_of_test (areDigits.all first member) noDigit)

theorem left_of_readField {count low high value : Nat} {left : List Char}
    (read : readField count low high (digits ++ '\n' :: rest) = some (value, left)) :
    left = digits.drop count ++ '\n' :: rest := by
  simp only [readField, Option.ite_none_right_eq_some, Option.some.injEq, Prod.mk.injEq] at read
  obtain ⟨⟨_, all, _⟩, _, rfl⟩ := read
  have within : count ≤ digits.length := by
    -- the end of the line is no digit
    refine Nat.le_of_not_lt fun beyond => ?_
    obtain ⟨more, more_eq⟩ : ∃ more, count - digits.length = more + 1 :=
      ⟨count - digits.length - 1, by omega⟩
    rw [List.take_append, more_eq, List.take_succ_cons, List.all_append, List.all_cons] at all
    simp [show Text.isDigitOf 10 '\n' = false by decide] at all
  exact List.drop_append_of_le_length within

theorem skipDate (areDigits : AreDigits digits) : skipDate (digits ++ '\n' :: rest) = none := by
  unfold Toml.skipDate
  cases year : readField 4 0 9999 (digits ++ '\n' :: rest) with
  | none => rfl
  | some found =>
    obtain ⟨value, left⟩ := found
    simp [left_of_readField year, areDigits.expect_drop 4 (show ('-').isDigit = false by decide)]

theorem skipTime (areDigits : AreDigits digits) : skipTime (digits ++ '\n' :: rest) = none := by
  unfold Toml.skipTime
  cases hour : readField 2 0 23 (digits ++ '\n' :: rest) with
  | none => rfl
  | some found =>
    obtain ⟨value, left⟩ := found
    simp [left_of_readField hour, areDigits.expect_drop 2 (show (':').isDigit = false by decide)]

theorem skipMoment (areDigits : AreDigits digits) :
    skipMoment (digits ++ '\n' :: rest) = none := by
  rw [Toml.skipMoment, areDigits.skipDate]
  exact areDigits.skipTime

theorem exists_cons (areDigits : AreDigits digits) :
    ∃ first others, digits = first :: others ∧ first.isDigit = true := by
  obtain ⟨first, others, rfl⟩ := List.exists_cons_of_ne_nil areDigits.nonempty
  exact ⟨first, others, rfl, areDigits.all first (List.mem_cons_self ..)⟩

theorem readSign (areDigits : AreDigits digits) (rest : List Char) :
    readSign (digits ++ rest) = (false, digits ++ rest) := by
  obtain ⟨first, others, rfl, isDigit⟩ := areDigits.exists_cons
  have noPlus := ne_of_test isDigit (show ('+').isDigit = false by decide)
  have noHyphen := ne_of_test isDigit (show ('-').isDigit = false by decide)
  simp [Toml.readSign, noPlus, noHyphen]

end AreDigits

theorem readWhole_toDigits (number : Nat) (rest : List Char) :
    readWhole (Nat.toDigits 10 number ++ '\n' :: rest) =
      some (Nat.toDigits 10 number, '\n' :: rest) := by
  by_cases zero : number = 0
  · subst zero
    rfl
  · have areDigits := areDigits_toDigits number
    have noZero := head?_toDigits (Nat.pos_of_ne_zero zero)
    have spanned := areDigits.spanDigits rest
    generalize Nat.toDigits 10 number = digits at *
    obtain ⟨first, others, rfl, isDigit⟩ := areDigits.exists_cons
    have other : first ≠ '0' := by simpa using noZero
    have read : readDigits 10 (first :: others ++ '\n' :: rest) =
        some (first :: others, '\n' :: rest) := by
      simp [readDigits, isDigitOf_of_isDigit isDigit, ← spanned]
    rw [← read, List.cons_append, readWhole]
    rintro left ⟨⟩
    exact other rfl

theorem readFloating_toDigits (number : Nat) (rest : List Char) :
    readFloating (Nat.toDigits 10 number ++ '\n' :: rest) = none := by
  have areDigits := areDigits_toDigits number
  have decimal : readDecimal (Nat.toDigits 10 number ++ '\n' :: rest) = none := by
    simp [readDecimal, areDigits.readSign, readWhole_toDigits, readFraction, readExponent]
  have special : readSpecial (Nat.toDigits 10 number ++ '\n' :: rest) = none := by
    obtain ⟨first, others, digits_eq, isDigit⟩ := areDigits.exists_cons
    have noInfinity := ne_of_test isDigit (show ('i').isDigit = false by decide)
    have noNumber := ne_of_test isDigit (show ('n').isDigit = false by decide)
    rw [readSpecial, areDigits.readSign, digits_eq]
    simp [noInfinity, noNumber]
  rw [readFloating, decimal, special]
  rfl

theorem readBase_toDigits (number : Nat) (rest : List Char) :
    readBase (Nat.toDigits 10 number ++ '\n' :: rest) = none := by
  by_cases zero : number = 0
  · subst zero
    rfl
  · have noZero := head?_toDigits (Nat.pos_of_ne_zero zero)
    obtain ⟨first, others, digits_eq, isDigit⟩ := (areDigits_toDigits number).exists_cons
    rw [digits_eq] at noZero ⊢
    have other : first ≠ '0' := by simpa using noZero
    simp [readBase, other]

theorem isSigned_natCast {number : Nat} (fits : number < Word.signedBound) :
    Word.isSigned (number : Int) = true := by
  have below : (number : Int) < (Word.signedBound : Int) := Int.ofNat_lt.2 fits
  have above : -(Word.signedBound : Int) ≤ number :=
    Int.le_trans (Int.neg_nonpos_of_nonneg (Int.natCast_nonneg _)) (Int.natCast_nonneg _)
  rw [Word.isSigned, decide_eq_true above, decide_eq_true below]
  rfl

theorem readInteger_of_natural {text digits rest : List Char} (noBase : readBase text = none)
    (noSign : readSign text = (false, text)) (whole : readWhole text = some (digits, rest))
    (signed : Word.isSigned (Text.numberOf 10 digits) = true) :
    readInteger text = some ((Text.numberOf 10 digits : Int), rest) := by
  -- checking a step by computation would count out the bounds of the range
  simp -implicitDefEqProofs [readInteger, noBase, noSign, whole, signed]

theorem readInteger_toDigits {number : Nat} (fits : number < Word.signedBound) (rest : List Char) :
    readInteger (Nat.toDigits 10 number ++ '\n' :: rest) = some ((number : Int), '\n' :: rest) := by
  have signed := isSigned_natCast fits
  rw [← numberOf_toDigits number] at signed
  rw [readInteger_of_natural (readBase_toDigits number rest)
    ((areDigits_toDigits number).readSign _) (readWhole_toDigits number rest) signed,
    numberOf_toDigits]

/-- A natural number is read back at the end of its line. -/
theorem readScalar_toDigits {number : Nat} (fits : number < Word.signedBound) (rest : List Char) :
    readScalar (Nat.toDigits 10 number ++ '\n' :: rest) = some (.integer number, '\n' :: rest) := by
  have numeric : readNumeric (Nat.toDigits 10 number ++ '\n' :: rest) =
      some (.integer number, '\n' :: rest) := by
    simp [readNumeric, (areDigits_toDigits number).skipMoment, readFloating_toDigits,
      readInteger_toDigits fits]
  obtain ⟨first, others, digits_eq, isDigit⟩ := (areDigits_toDigits number).exists_cons
  rw [← numeric, digits_eq]
  have noDouble := ne_of_test isDigit (show ('"').isDigit = false by decide)
  have noSingle := ne_of_test isDigit (show ('\'').isDigit = false by decide)
  have noTrue := ne_of_test isDigit (show ('t').isDigit = false by decide)
  have noFalse := ne_of_test isDigit (show ('f').isDigit = false by decide)
  simp [readScalar, noDouble, noSingle, noTrue, noFalse]

end LineEcho.Toml
