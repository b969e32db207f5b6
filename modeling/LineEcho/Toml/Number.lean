import LineEcho.Decimal.Binary64
import LineEcho.Decimal.Word
import LineEcho.Text.Digit
import LineEcho.Toml.Blank

/-!
# Reading numbers, and dates and times

Digits may be grouped by underscores between them. An integer has 64 bits with a sign; a number with
a fraction or an exponent is rounded to binary64. Of a date or a time only its form and its bounds
matter.
-/

namespace LineEcho.Toml

/-- A number with a fraction or an exponent. -/
inductive Floating
  | finite (negative : Bool) (value : Binary64)
  | infinite (negative : Bool)
  | notANumber
  deriving DecidableEq, Repr

/-- The text of a number with a fraction. -/
def Floating.text : Floating → String
  | .finite negative value => (if negative then "-" else "") ++ value.shortest.positional
  | .infinite negative => if negative then "-inf" else "inf"
  | .notANumber => "NaN"

/-- The digits in front of a text, without the underscores that stand between digits. -/
def spanDigits (base : Nat) : List Char → List Char × List Char
  | [] => ([], [])
  | [character] => if Text.isDigitOf base character then ([character], []) else ([], [character])
  | first :: second :: rest =>
    if Text.isDigitOf base first then
      let (digits, left) := spanDigits base (second :: rest)
      (first :: digits, left)
    else if first = '_' ∧ Text.isDigitOf base second then spanDigits base (second :: rest)
    else ([], first :: second :: rest)

/-- Digits, of which there is at least one and which do not begin with an underscore. -/
def readDigits (base : Nat) (text : List Char) : Option (List Char × List Char) :=
  if (text.head?.map (Text.isDigitOf base)).getD false then some (spanDigits base text) else none

/-- The sign in front of a text, if there is one, as to whether it is negative. -/
def readSign : List Char → Bool × List Char
  | '+' :: rest => (false, rest)
  | '-' :: rest => (true, rest)
  | text => (false, text)

/-- The digits of a whole number in decimal: a single zero, or digits that do not begin with one. -/
def readWhole : Reader (List Char)
  | '0' :: rest => some (['0'], rest)
  | text => readDigits 10 text

/-- The base that the text announces, unless it is ten. -/
def readBase : Reader Nat
  | '0' :: 'x' :: rest => some (16, rest)
  | '0' :: 'o' :: rest => some (8, rest)
  | '0' :: 'b' :: rest => some (2, rest)
  | _ => none

def readInteger (text : List Char) : Option (Int × List Char) := do
  let (value, rest) ←
    match readBase text with
    | some (base, rest) => do
      let (digits, rest) ← readDigits base rest
      some ((Text.numberOf base digits : Int), rest)
    | none => do
      let (negative, rest) := readSign text
      let (digits, rest) ← readWhole rest
      let magnitude : Int := Text.numberOf 10 digits
      some (if negative then -magnitude else magnitude, rest)
  if Word.isSigned value then some (value, rest) else none

/-- The digits after a point, if there is one. -/
def readFraction : Reader (Option (List Char))
  | '.' :: rest => (readDigits 10 rest).map (fun (digits, rest) => (some digits, rest))
  | text => some (none, text)

def readExponent : Reader (Option Int)
  | character :: rest =>
    if character = 'e' ∨ character = 'E' then do
      let (negative, rest) := readSign rest
      let (digits, rest) ← readDigits 10 rest
      let magnitude : Int := Text.numberOf 10 digits
      some (some (if negative then -magnitude else magnitude), rest)
    else some (none, character :: rest)
  | [] => some (none, [])

/-- The number of a sign and a decimal. One that is too great is refused, but for a negative one. -/
def Floating.ofDecimal? (negative : Bool) (decimal : Decimal) : Option Floating :=
  match decimal.nearest? with
  | some value => some (.finite negative value)
  | none => if negative then some (.infinite true) else none

/-- A number in digits that has a fraction, an exponent, or both. -/
def readDecimal (text : List Char) : Option (Floating × List Char) := do
  let (negative, rest) := readSign text
  let (whole, rest) ← readWhole rest
  let (fraction, rest) ← readFraction rest
  let (exponent, rest) ← readExponent rest
  if fraction.isNone ∧ exponent.isNone then none
  else
    let places := fraction.getD []
    let decimal : Decimal :=
      ⟨Text.numberOf 10 (whole ++ places), exponent.getD 0 - places.length⟩
    (Floating.ofDecimal? negative decimal).map (·, rest)

/-- Infinity or the value that is no number, with or without a sign. -/
def readSpecial (text : List Char) : Option (Floating × List Char) :=
  match readSign text with
  | (negative, 'i' :: 'n' :: 'f' :: rest) => some (.infinite negative, rest)
  | (_, 'n' :: 'a' :: 'n' :: rest) => some (.notANumber, rest)
  | _ => none

/-- A number with a fraction, or one of the special values. -/
def readFloating (text : List Char) : Option (Floating × List Char) :=
  readDecimal text <|> readSpecial text

/-! ### Dates and times -/

/-- A number of exactly so many digits within bounds. -/
def readField (count low high : Nat) : Reader Nat := fun text =>
  let digits := text.take count
  let value := Text.numberOf 10 digits
  if digits.length = count ∧ digits.all (Text.isDigitOf 10) ∧ low ≤ value ∧ value ≤ high then
    some (value, text.drop count)
  else none

def daysOf (year month : Nat) : Nat :=
  if month = 2 then
    if year % 4 = 0 ∧ (year % 100 ≠ 0 ∨ year % 400 = 0) then 29 else 28
  else if [4, 6, 9, 11].contains month then 30
  else 31

def skipDate (text : List Char) : Option (List Char) := do
  let (year, rest) ← readField 4 0 9999 text
  let (month, rest) ← readField 2 1 12 (← expect '-' rest)
  let (_, rest) ← readField 2 1 (daysOf year month) (← expect '-' rest)
  some rest

/-- What follows the fraction of a second, if there is one. -/
def skipSecondFraction : List Char → Option (List Char)
  | '.' :: digit :: rest =>
    if Text.isDigitOf 10 digit then some (rest.dropWhile (Text.isDigitOf 10)) else none
  | text => some text

def skipTime (text : List Char) : Option (List Char) := do
  let (_, rest) ← readField 2 0 23 text
  let (_, rest) ← readField 2 0 59 (← expect ':' rest)
  let (_, rest) ← readField 2 0 60 (← expect ':' rest)
  skipSecondFraction rest

/-- What follows the distance from universal time, if it is given. -/
def skipOffset : List Char → Option (List Char)
  | [] => some []
  | character :: rest =>
    if character = 'Z' ∨ character = 'z' then some rest
    else if character = '+' ∨ character = '-' then do
      let (_, rest) ← readField 2 0 23 rest
      let (_, rest) ← readField 2 0 59 (← expect ':' rest)
      some rest
    else some (character :: rest)

/-- What follows a time of the day after a date. -/
def skipTimeOfDate : List Char → Option (List Char)
  | [] => none
  | character :: rest =>
    if character = 'T' ∨ character = 't' ∨ character = ' ' then skipTime rest else none

/-- What follows a date, a time of the day, or a date with one. -/
def skipMoment (text : List Char) : Option (List Char) :=
  match skipDate text with
  | some rest =>
    match skipTimeOfDate rest with
    | some rest => skipOffset rest
    | none => some rest
  | none => skipTime text

end LineEcho.Toml
