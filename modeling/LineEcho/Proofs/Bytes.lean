import LineEcho.Bytes

/-!
# Text in UTF-8

Reading the octets of a text gives the text back.  A character of one to four octets is read by the
leading octet, which knows how many follow, and by one step for each of those.  The bounds of the
first of them never get in the way, because no character is a surrogate or too great.
-/

namespace LineEcho.Bytes

/-- The octets of a leading one, in numbers. -/
theorem Lead.ofByte?_ofNat {octet : Nat} (small : octet < 256) :
    Lead.ofByte? (UInt8.ofNat octet) =
      if octet < 0x80 then some ⟨octet, 0, 0, 0⟩
      else if octet < 0xC2 then none
      else if octet < 0xE0 then some ⟨octet - 0xC0, 1, 0x80, 0xBF⟩
      else if octet = 0xE0 then some ⟨0, 2, 0xA0, 0xBF⟩
      else if octet = 0xED then some ⟨0xD, 2, 0x80, 0x9F⟩
      else if octet < 0xF0 then some ⟨octet - 0xE0, 2, 0x80, 0xBF⟩
      else if octet = 0xF0 then some ⟨0, 3, 0x90, 0xBF⟩
      else if octet < 0xF4 then some ⟨octet - 0xF0, 3, 0x80, 0xBF⟩
      else if octet = 0xF4 then some ⟨4, 3, 0x80, 0x8F⟩
      else none := by
  have toNat_eq : (UInt8.ofNat octet).toNat = octet := UInt8.toNat_ofNat_of_lt' small
  simp [ofByte?, UInt8.lt_iff_toNat_lt, ← UInt8.toNat_inj, toNat_eq]

/-- One more octet of a character. -/
theorem continueChar_cons {low high octet : Nat} (within : low ≤ octet ∧ octet ≤ high)
    (small : high < 256) (value more taken : Nat) (rest : Bytes) :
    continueChar value (more + 1) (UInt8.ofNat low) (UInt8.ofNat high) taken
        (UInt8.ofNat octet :: rest) =
      continueChar (value * 64 + (octet - 0x80)) more 0x80 0xBF (taken + 1) rest := by
  have toNat_eq {number : Nat} (h : number < 256) : (UInt8.ofNat number).toNat = number :=
    UInt8.toNat_ofNat_of_lt' h
  rw [continueChar, if_pos, toNat_eq (by omega)]
  rw [UInt8.le_iff_toNat_le, UInt8.le_iff_toNat_le, toNat_eq small, toNat_eq (by omega),
    toNat_eq (by omega)]
  exact within

/-- One more octet, after the first of those that follow. -/
theorem continueChar_ordinary (octet : Nat) (within : 0x80 ≤ octet ∧ octet ≤ 0xBF)
    (value more taken : Nat) (rest : Bytes) :
    continueChar value (more + 1) 0x80 0xBF taken (UInt8.ofNat octet :: rest) =
      continueChar (value * 64 + (octet - 0x80)) more 0x80 0xBF (taken + 1) rest :=
  continueChar_cons within (by omega) value more taken rest

/-- Two octets follow, of which the first is in bounds unless it makes the form overlong or the
character a surrogate. -/
theorem Lead.ofByte?_three (bits second : Nat) (few : bits < 0x10)
    (continues : 0x80 ≤ second ∧ second ≤ 0xBF) (shortest : bits = 0 → 0xA0 ≤ second)
    (noSurrogate : bits = 0xD → second ≤ 0x9F) :
    ∃ low high, Lead.ofByte? (UInt8.ofNat (bits + 0xE0)) =
        some ⟨bits, 2, UInt8.ofNat low, UInt8.ofNat high⟩ ∧
      (low ≤ second ∧ second ≤ high) ∧ high < 256 := by
  rw [ofByte?_ofNat (by omega), if_neg (by omega), if_neg (by omega), if_neg (by omega)]
  by_cases overlong : bits = 0
  · subst overlong
    exact ⟨0xA0, 0xBF, rfl, ⟨shortest rfl, continues.2⟩, by omega⟩
  · by_cases surrogate : bits = 0xD
    · subst surrogate
      exact ⟨0x80, 0x9F, rfl, ⟨continues.1, noSurrogate rfl⟩, by omega⟩
    · rw [if_neg (by omega), if_neg (by omega), if_pos (by omega), Nat.add_sub_cancel]
      exact ⟨0x80, 0xBF, rfl, continues, by omega⟩

/-- Three octets follow, of which the first is in bounds unless it makes the form overlong or the
character too great. -/
theorem Lead.ofByte?_four (bits second : Nat) (few : bits < 5)
    (continues : 0x80 ≤ second ∧ second ≤ 0xBF) (shortest : bits = 0 → 0x90 ≤ second)
    (notTooGreat : bits = 4 → second ≤ 0x8F) :
    ∃ low high, Lead.ofByte? (UInt8.ofNat (bits + 0xF0)) =
        some ⟨bits, 3, UInt8.ofNat low, UInt8.ofNat high⟩ ∧
      (low ≤ second ∧ second ≤ high) ∧ high < 256 := by
  rw [ofByte?_ofNat (by omega), if_neg (by omega), if_neg (by omega), if_neg (by omega),
    if_neg (by omega), if_neg (by omega), if_neg (by omega)]
  by_cases overlong : bits = 0
  · subst overlong
    exact ⟨0x90, 0xBF, rfl, ⟨shortest rfl, continues.2⟩, by omega⟩
  · by_cases tooGreat : bits = 4
    · subst tooGreat
      exact ⟨0x80, 0x8F, rfl, ⟨continues.1, notTooGreat rfl⟩, by omega⟩
    · rw [if_neg (by omega), if_pos (by omega), Nat.add_sub_cancel]
      exact ⟨0x80, 0xBF, rfl, continues, by omega⟩

theorem firstChar_utf8EncodeChar (character : Char) (rest : Bytes) :
    ∃ octet following, String.utf8EncodeChar character = octet :: following ∧
      firstChar octet (following ++ rest) = .char character (following.length + 1) := by
  have valid : character.val.toNat < 0xD800 ∨
      0xDFFF < character.val.toNat ∧ character.val.toNat < 0x110000 := character.valid
  have back {value : Nat} (same : value = character.val.toNat) : Char.ofNat value = character := by
    rw [same]
    exact Char.ofNat_toNat character
  unfold String.utf8EncodeChar firstChar
  generalize character.val.toNat = value at *
  simp only
  split
  · refine ⟨_, [], rfl, ?_⟩
    rw [Lead.ofByte?_ofNat (by omega), if_pos (by omega)]
    exact congrArg (FirstChar.char · 1) (back rfl)
  · split
    · refine ⟨_, [_], rfl, ?_⟩
      rw [Lead.ofByte?_ofNat (by omega), if_neg (by omega), if_neg (by omega), if_pos (by omega)]
      refine (continueChar_ordinary _ (by omega) _ 0 1 rest).trans ?_
      exact congrArg (FirstChar.char · 2) (back (by simp only; omega))
    · split
      · refine ⟨_, [_, _], rfl, ?_⟩
        obtain ⟨low, high, lead_eq, within, small⟩ :=
          Lead.ofByte?_three (value / 4096 % 16) (value / 64 % 64 + 128)
            (by omega) (by omega) (by omega) (by omega)
        rw [lead_eq]
        refine (continueChar_cons within small _ 1 1 (_ :: rest)).trans ?_
        refine (continueChar_ordinary _ (by omega) _ 0 2 rest).trans ?_
        exact congrArg (FirstChar.char · 3) (back (by simp only; omega))
      · refine ⟨_, [_, _, _], rfl, ?_⟩
        obtain ⟨low, high, lead_eq, within, small⟩ :=
          Lead.ofByte?_four (value / 262144 % 8) (value / 4096 % 64 + 128)
            (by omega) (by omega) (by omega) (by omega)
        rw [lead_eq]
        refine (continueChar_cons within small _ 2 1 (_ :: _ :: rest)).trans ?_
        refine (continueChar_ordinary _ (by omega) _ 1 2 (_ :: rest)).trans ?_
        refine (continueChar_ordinary _ (by omega) _ 0 3 rest).trans ?_
        exact congrArg (FirstChar.char · 4) (back (by simp only; omega))

/-- With enough steps to spare, every character is read. -/
theorem charsWith_ofChars (onBroken : Option Char) (characters : List Char) {fuel : Nat}
    (enough : (ofChars characters).length ≤ fuel) :
    charsWith onBroken fuel (ofChars characters) = some characters := by
  induction characters generalizing fuel with
  | nil => cases fuel <;> rfl
  | cons character rest ih =>
    obtain ⟨octet, following, encoded, first⟩ := firstChar_utf8EncodeChar character (ofChars rest)
    have split : ofChars (character :: rest) = octet :: (following ++ ofChars rest) := by
      rw [ofChars, List.flatMap_cons, encoded]
      rfl
    rw [split] at enough ⊢
    obtain ⟨fuel, rfl⟩ : ∃ less, fuel = less + 1 := ⟨fuel - 1, by simp at enough; omega⟩
    rw [charsWith, first]
    simp only [Nat.add_sub_cancel, List.drop_left]
    rw [ih (by simp at enough; omega)]
    rfl

theorem chars?_ofChars (characters : List Char) : chars? (ofChars characters) = some characters :=
  charsWith_ofChars none characters (Nat.le_refl _)

theorem text?_ofText (text : String) : text? (ofText text) = some text := by
  rw [text?, ofText, chars?_ofChars, Option.map_some, String.ofList_toList]

end LineEcho.Bytes
