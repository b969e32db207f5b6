/-!
# Between the parts of a document

Blanks, line breaks and comments may stand between the parts of a document.
-/

namespace LineEcho.Toml

/-- Reads from the front of a text: what was read and what is left, or nothing if the text does not
begin so. -/
abbrev Reader (α : Type) := List Char → Option (α × List Char)

def isBlank (character : Char) : Bool :=
  character == ' ' || character == '\t'

def skipBlanks (text : List Char) : List Char :=
  text.dropWhile isBlank

/-- A text without the character in front, which has to be the given one. -/
def expect (expected : Char) : List Char → Option (List Char)
  | [] => none
  | character :: rest => if character = expected then some rest else none

/-- A text without the line break in front: a newline, with or without a carriage return. -/
def skipLineBreak : List Char → Option (List Char)
  | '\n' :: rest => some rest
  | '\r' :: '\n' :: rest => some rest
  | _ => none

/-- A character other than a control character. The tab is none in this sense. -/
def isPlain (character : Char) : Bool :=
  character == '\t' || (' ' ≤ character && character != '\x7F')

/-- A text without the comment in front, if there is one. -/
def skipComment : List Char → List Char
  | '#' :: rest => rest.dropWhile isPlain
  | text => text

/-- What follows the current line, which may hold blanks and a comment only. -/
def skipLineEnd (text : List Char) : Option (List Char) :=
  match skipComment (skipBlanks text) with
  | [] => some []
  | rest => skipLineBreak rest

/-- A text without the blanks, line breaks and comments in front; `inComment` says that a comment
has begun. A comment has to end with its line. -/
def skipFiller (inComment : Bool) : List Char → Option (List Char)
  | [] => some []
  | '\n' :: rest => skipFiller false rest
  | '\r' :: '\n' :: rest => skipFiller false rest
  | character :: rest =>
    if inComment then if isPlain character then skipFiller true rest else none
    else if isBlank character then skipFiller false rest
    else if character = '#' then skipFiller true rest
    else some (character :: rest)

/-- A text without the blanks and line breaks in front. -/
def skipBlankLines : List Char → List Char
  | '\n' :: rest => skipBlankLines rest
  | '\r' :: '\n' :: rest => skipBlankLines rest
  | character :: rest => if isBlank character then skipBlankLines rest else character :: rest
  | [] => []

end LineEcho.Toml
