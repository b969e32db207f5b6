/-!
# Octet strings and their reading as UTF-8 text

`Bytes.ofText` writes a text in UTF-8, `Bytes.text?` reads one back and refuses anything that is no
UTF-8, and `Bytes.textLossy` reads any octet string, putting one replacement character for each
longest piece that starts like a character and cannot be finished.
-/

namespace LineEcho

/-- A string of octets. -/
abbrev Bytes := List UInt8

namespace Bytes

def newline : UInt8 := 0x0A

/-- The octet that may stand before the newline of a line. -/
def carriageReturn : UInt8 := 0x0D

/-- The characters of a text in UTF-8, one after another. -/
def ofChars (characters : List Char) : Bytes :=
  characters.flatMap String.utf8EncodeChar

def ofText (text : String) : Bytes :=
  ofChars text.toList

/-- What an octet announces when a character starts with it: the bits that it contributes, how many
octets follow, and the bounds of the first of them. -/
structure Lead where
  bits : Nat
  following : Nat
  low : UInt8
  high : UInt8

/-- The bounds of the second octet are narrower after four of the leading octets: they keep out
overlong forms, surrogates and values above the last code point. -/
def Lead.ofByte? (byte : UInt8) : Option Lead :=
  if byte < 0x80 then some ⟨byte.toNat, 0, 0, 0⟩
  else if byte < 0xC2 then none
  else if byte < 0xE0 then some ⟨byte.toNat - 0xC0, 1, 0x80, 0xBF⟩
  else if byte == 0xE0 then some ⟨0, 2, 0xA0, 0xBF⟩
  else if byte == 0xED then some ⟨0xD, 2, 0x80, 0x9F⟩
  else if byte < 0xF0 then some ⟨byte.toNat - 0xE0, 2, 0x80, 0xBF⟩
  else if byte == 0xF0 then some ⟨0, 3, 0x90, 0xBF⟩
  else if byte < 0xF4 then some ⟨byte.toNat - 0xF0, 3, 0x80, 0xBF⟩
  else if byte == 0xF4 then some ⟨4, 3, 0x80, 0x8F⟩
  else none

/-- The outcome of reading one character: the character, or the number of octets of the longest
piece that starts like a character. -/
inductive FirstChar
  | char (value : Char) (length : Nat)
  | broken (length : Nat)

/-- Takes the octets that complete a character, whose first one must lie in the given bounds. -/
def continueChar (value : Nat) (following : Nat) (low high : UInt8) (taken : Nat) :
    Bytes → FirstChar :=
  fun rest =>
    match following, rest with
    | 0, _ => .char (Char.ofNat value) taken
    | _ + 1, [] => .broken taken
    | more + 1, byte :: rest =>
      if low ≤ byte ∧ byte ≤ high then
        continueChar (value * 64 + (byte.toNat - 0x80)) more 0x80 0xBF (taken + 1) rest
      else .broken taken

/-- The first character of an octet string that is not empty. -/
def firstChar (byte : UInt8) (rest : Bytes) : FirstChar :=
  match Lead.ofByte? byte with
  | none => .broken 1
  | some lead => continueChar lead.bits lead.following lead.low lead.high 1 rest

/-- Reads characters until the octets, or the given number of characters, run out. -/
def charsWith (onBroken : Option Char) : Nat → Bytes → Option (List Char)
  | 0, _ => some []
  | _, [] => some []
  | fuel + 1, byte :: rest =>
    match firstChar byte rest with
    | .char value length => (charsWith onBroken fuel (rest.drop (length - 1))).map (value :: ·)
    | .broken length =>
      match onBroken with
      | none => none
      | some mark => (charsWith onBroken fuel (rest.drop (length - 1))).map (mark :: ·)

/-- The characters of an octet string, or none if it is no UTF-8. -/
def chars? (bytes : Bytes) : Option (List Char) :=
  charsWith none bytes.length bytes

/-- The text of an octet string, or none if it is no UTF-8. -/
def text? (bytes : Bytes) : Option String :=
  (chars? bytes).map String.ofList

/-- The text of an octet string with a replacement character for each broken piece. -/
def textLossy (bytes : Bytes) : String :=
  String.ofList ((charsWith (some (Char.ofNat 0xFFFD)) bytes.length bytes).getD [])

end Bytes

end LineEcho
