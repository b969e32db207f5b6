import LineEcho.Text.Digit
import LineEcho.Toml.Blank

/-!
# Reading quoted texts

There are two quotes. Between double quotes a backslash begins an escape; between single quotes
everything stands for itself. Three quotes enclose a text of several lines, in which a line break in
front is dropped, every other one counts as a newline, and one or two quotes are ordinary
characters.
-/

namespace LineEcho.Toml

/-- Which quote encloses a text. -/
inductive Quote
  | double
  | single
  deriving DecidableEq, Repr

def Quote.mark : Quote → Char
  | .double => '"'
  | .single => '\''

/-- One step through a quoted text: characters of it, or its end with the last ones. -/
inductive Piece
  | more (characters : List Char)
  | last (characters : List Char)

/-- A character given by its number in so many hexadecimal digits. -/
def readNumbered (count : Nat) : Reader Char := fun text =>
  let digits := text.take count
  let value := Text.numberOf 16 digits
  if digits.length = count ∧ digits.all (Text.isDigitOf 16) ∧ value.isValidChar then
    some (Char.ofNat value, text.drop count)
  else none

/-- The character of an escape, after its backslash. -/
def readEscape : Reader Char
  | 'b' :: rest => some ('\x08', rest)
  | 't' :: rest => some ('\t', rest)
  | 'n' :: rest => some ('\n', rest)
  | 'f' :: rest => some ('\x0C', rest)
  | 'r' :: rest => some ('\r', rest)
  | '"' :: rest => some ('"', rest)
  | '\\' :: rest => some ('\\', rest)
  | 'u' :: rest => readNumbered 4 rest
  | 'U' :: rest => readNumbered 8 rest
  | _ => none

/-- An escape, or a character that stands for itself. -/
def readCharacter (quote : Quote) : Reader Piece
  | [] => none
  | character :: rest =>
    if quote = .double ∧ character = '\\' then
      (readEscape rest).map (fun (escaped, rest) => (.more [escaped], rest))
    else if isPlain character then some (.more [character], rest)
    else none

/-- One step through a text of one line. -/
def readPiece (quote : Quote) : Reader Piece
  | [] => none
  | character :: rest =>
    if character = quote.mark then some (.last [], rest)
    else readCharacter quote (character :: rest)

/-- What follows a backslash at the end of a line: the next character that is neither blank nor a
line break. -/
def skipJoint (text : List Char) : Option (List Char) :=
  (skipLineBreak (skipBlanks text)).map skipBlankLines

/-- One step through a text of several lines. Of more than three quotes at the end, up to two belong
to the text. -/
def readPieceOfLines (quote : Quote) (text : List Char) : Option (Piece × List Char) :=
  let marks := (text.takeWhile (· == quote.mark)).length
  if 3 ≤ marks then
    let kept := min (marks - 3) 2
    some (.last (List.replicate kept quote.mark), text.drop (kept + 3))
  else
    match skipLineBreak text with
    | some rest => some (.more ['\n'], rest)
    | none =>
      match if quote = .double then (expect '\\' text).bind skipJoint else none with
      | some rest => some (.more [], rest)
      | none => readCharacter quote text

/-- Joins the pieces of a quoted text up to its end, of which there are at most so many. -/
def readPieces (piece : Reader Piece) : Nat → Reader (List Char)
  | 0, _ => none
  | count + 1, text =>
    match piece text with
    | some (.last characters, rest) => some (characters, rest)
    | some (.more characters, rest) =>
      (readPieces piece count rest).map (fun (others, rest) => (characters ++ others, rest))
    | none => none

/-- The rest of a text of one line after its quote. -/
def readBody (quote : Quote) : Reader (List Char) := fun text =>
  readPieces (readPiece quote) text.length text

/-- The rest of a text of several lines after its three quotes. -/
def readBodyOfLines (quote : Quote) : Reader (List Char) := fun text =>
  let text := (skipLineBreak text).getD text
  readPieces (readPieceOfLines quote) text.length text

/-- A quoted text of either kind, after its first quote. -/
def readQuoted (quote : Quote) : Reader (List Char)
  | first :: second :: rest =>
    if first = quote.mark ∧ second = quote.mark then readBodyOfLines quote rest
    else readBody quote (first :: second :: rest)
  | text => readBody quote text

end LineEcho.Toml
