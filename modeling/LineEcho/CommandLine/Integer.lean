import LineEcho.Decimal.Word

/-!
# Numbers on the command line

A number is digits after an optional sign. It is read from the left, so a character that is no digit
is noticed only if the number has not become too large before it.
-/

namespace LineEcho.CommandLine

/-- Why a text is no number of some type. -/
inductive NumberFault
  | empty
  | invalidDigit
  | tooLarge
  | tooSmall
  deriving DecidableEq, Repr

/-- What is said of a text that is no number. -/
def NumberFault.text : NumberFault → String
  | empty => "cannot parse integer from empty string"
  | invalidDigit => "invalid digit found in string"
  | tooLarge => "number too large to fit in target type"
  | tooSmall => "number too small to fit in target type"

/-- Reads digits after a number that has been read already, up to a greatest value. -/
def readDigits (greatest : Nat) (beyond : NumberFault) (value : Nat) :
    List Char → Except NumberFault Nat
  | [] => .ok value
  | character :: rest =>
    if !character.isDigit then .error .invalidDigit
    else
      let next := value * 10 + (character.toNat - '0'.toNat)
      if greatest < next then .error beyond else readDigits greatest beyond next rest

/-- Reads digits, of which there has to be one. -/
def readMagnitude (greatest : Nat) (beyond : NumberFault) (digits : List Char) :
    Except NumberFault Nat :=
  if digits.isEmpty then .error .invalidDigit else readDigits greatest beyond 0 digits

/-- Reads a number of 64 bits with a sign. -/
def readSigned (text : String) : Except NumberFault Int :=
  match text.toList with
  | [] => .error .empty
  | '-' :: digits =>
    (readMagnitude Word.signedBound .tooSmall digits).map (fun value => -(value : Int))
  | '+' :: digits =>
    (readMagnitude Word.greatestSigned .tooLarge digits).map (fun value => (value : Int))
  | digits => (readMagnitude Word.greatestSigned .tooLarge digits).map (fun value => (value : Int))

/-- Reads a number of 64 bits without a sign. A plus sign may stand in front all the same. -/
def readUnsigned (text : String) : Except NumberFault Nat :=
  match text.toList with
  | [] => .error .empty
  | '+' :: digits => readMagnitude (UInt64.size - 1) .tooLarge digits
  | digits => readMagnitude (UInt64.size - 1) .tooLarge digits

/-- Reads a number up to a limit, or says why the text is none. -/
def readBounded (limit : Nat) (text : String) : Except String Nat :=
  match readSigned text with
  | .error fault => .error fault.text
  | .ok value =>
    if 0 ≤ value ∧ value ≤ limit then .ok value.toNat
    else .error (toString value ++ " is not in 0..=" ++ toString limit)

/-- Reads a count of 64 bits, or says why the text is none. -/
def readCount (text : String) : Except String Nat :=
  (readUnsigned text).mapError NumberFault.text

end LineEcho.CommandLine
