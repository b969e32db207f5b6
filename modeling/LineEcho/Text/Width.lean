import LineEcho.Text.WidthTable

/-!
# How many columns a text takes in a terminal

A character takes one column, two if it is wide, none if it only changes another one. A few
sequences are drawn as one: pictures with a selector, a skin tone or joined to others, and the
ligatures of some scripts.
-/

namespace LineEcho.Text

/-- The columns of a character on its own. -/
def charWidth (character : Char) : Nat :=
  if character = '\u17D8' then 3
  else if character.toNat < 0x7F then 1
  else if weightless.contains character then 0
  else if wide.contains character then 2
  else 1

/-! ### Pictures -/

def joiner : Char := Char.ofNat 0x200D

/-- Asks for a picture to be drawn as text. -/
def textSelector : Char := Char.ofNat 0xFE0E

/-- Asks for a picture to be drawn in colour. -/
def colourSelector : Char := Char.ofNat 0xFE0F

/-- Whether a character is one of the five skin tones. -/
def isSkinTone (character : Char) : Bool :=
  0x1F3FB ≤ character.toNat && character.toNat ≤ 0x1F3FF

/-- Whether a picture keeps its width when it is drawn as text. -/
def keepsWidth (character : Char) : Bool :=
  0x1F200 ≤ character.toNat && character.toNat ≤ 0x1F2FF

/-- What follows a picture in colour, if the text begins with one. -/
def skipPicture : List Char → Option (List Char)
  | [] => none
  | [character] => if colourPictures.contains character then some [] else none
  | first :: second :: rest =>
    let isColour := colourPictures.contains first
    if second = colourSelector ∧ (isColour ∨ textPictures.contains first) then some rest
    else if isSkinTone second ∧ tonedPictures.contains first then some rest
    else if isColour ∧ second ≠ textSelector then some (second :: rest)
    else none

/-- What follows the pictures that are joined to one before the text, at most so many of them. -/
def skipJoined : Nat → List Char → List Char
  | 0, text => text
  | count + 1, text =>
    match text with
    | [] => []
    | character :: rest =>
      match if character = joiner then skipPicture rest else none with
      | some rest => skipJoined count rest
      | none => character :: rest

/-! ### Ligatures -/

/-- Characters that are drawn as one if they follow each other, and the columns that they take
together. Between them there may be weightless characters, if that is said. -/
structure Ligature where
  parts : List Ranges
  loose : Bool
  columns : Nat

/-- The consonants that a joiner may join to another one in the script of the Berbers. -/
def joinable : Ranges :=
  #[(0x2D31, 0x2D65), (0x2D6F, 0x2D6F)]

def Ligature.all : List Ligature :=
  [⟨[#[(0x644, 0x644), (0x6B5, 0x6B8), (0x76A, 0x76A), (0x8A6, 0x8A6), (0x8C7, 0x8C7)],
      #[(0x622, 0x623), (0x625, 0x625), (0x627, 0x627), (0x671, 0x673), (0x675, 0x675),
        (0x773, 0x774), (0x870, 0x882)]], true, 1⟩,
    ⟨[#[(0x5D0, 0x5D0)], #[(0x200D, 0x200D)], #[(0x5DC, 0x5DC)]], false, 1⟩,
    ⟨[#[(0x17D2, 0x17D2)],
      #[(0x1780, 0x1782), (0x1784, 0x1787), (0x1789, 0x178C), (0x178E, 0x1793), (0x1795, 0x1798),
        (0x179B, 0x179D), (0x17A0, 0x17A0), (0x17A2, 0x17A2), (0x17A7, 0x17A7), (0x17AB, 0x17AC),
        (0x17AF, 0x17AF)]], false, 0⟩,
    ⟨[#[(0x1A15, 0x1A15)], #[(0x1A17, 0x1A17)], #[(0x200D, 0x200D)], #[(0x1A10, 0x1A10)]],
      false, 1⟩,
    ⟨[joinable, #[(0x200D, 0x200D), (0x2D7F, 0x2D7F)], joinable], false, 1⟩,
    ⟨[#[(0xA4F8, 0xA4FB)], #[(0xA4FC, 0xA4FD)]], false, 1⟩,
    ⟨[#[(0x10C32, 0x10C32)], #[(0x200D, 0x200D)], #[(0x10C03, 0x10C03)]], false, 1⟩]

/-- What follows the parts of a ligature, if the text begins with them. -/
def skipParts (loose : Bool) : List Ranges → List Char → Option (List Char)
  | [], text => some text
  | part :: parts, text =>
    match if loose then text.dropWhile weightless.contains else text with
    | [] => none
    | character :: rest => if part.contains character then skipParts loose parts rest else none

/-- The columns of a ligature in front, and what follows it. -/
def skipLigature (text : List Char) : Option (Nat × List Char) :=
  Ligature.all.findSome? (fun ligature =>
    (skipParts ligature.loose ligature.parts text).map (ligature.columns, ·))

/-! ### Texts -/

/-- The columns of the first sequence that is drawn as one, and what follows it. -/
def skipSequence (character : Char) (rest : List Char) : Nat × List Char :=
  if character.toNat < 0x7F ∧ rest.head? ≠ some colourSelector then (1, rest)
  else
    match skipPicture (character :: rest) with
    | some left => (2, skipJoined left.length left)
    | none =>
      if rest.head? = some textSelector ∧ colourPictures.contains character ∧
          !keepsWidth character then (1, rest.tail)
      else (skipLigature (character :: rest)).getD (charWidth character, rest)

/-- The columns of a text of at most so many characters. -/
def widthWithin : Nat → List Char → Nat
  | _, [] => 0
  | 0, _ => 0
  | count + 1, character :: rest =>
    let (columns, left) := skipSequence character rest
    columns + widthWithin count left

/-- The columns of a text that has a single line. -/
def width (text : List Char) : Nat :=
  widthWithin text.length text

end LineEcho.Text
