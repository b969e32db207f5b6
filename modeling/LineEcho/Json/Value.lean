import LineEcho.Text.Digit

/-!
# JSON documents and how they are laid out

An object has its names in the order given, each on a line of its own, two blanks further in than
the object. Numbers are natural: nothing else is ever reported.
-/

namespace LineEcho.Json

/-- A document. -/
inductive Value where
  | boolean (value : Bool)
  | number (value : Nat)
  | text (content : String)
  | object (fields : List (String × Value))

/-- A character of a string: quotes, backslashes and control characters are escaped. -/
def escaped (character : Char) : List Char :=
  if character = '"' then ['\\', '"']
  else if character = '\\' then ['\\', '\\']
  else if character = '\x08' then ['\\', 'b']
  else if character = '\t' then ['\\', 't']
  else if character = '\n' then ['\\', 'n']
  else if character = '\x0C' then ['\\', 'f']
  else if character = '\r' then ['\\', 'r']
  else if character < ' ' then
    ['\\', 'u', '0', '0', Nat.digitChar (character.toNat / 16),
      Nat.digitChar (character.toNat % 16)]
  else [character]

def writeText (content : String) : List Char :=
  ['"'] ++ content.toList.flatMap escaped ++ ['"']

/-- A new line with so many levels of indentation. -/
def newline (depth : Nat) : List Char :=
  '\n' :: List.replicate (2 * depth) ' '

namespace Value

mutual

def write (depth : Nat) : Value → List Char
  | .boolean true => ['t', 'r', 'u', 'e']
  | .boolean false => ['f', 'a', 'l', 's', 'e']
  | .number value => Nat.toDigits 10 value
  | .text content => writeText content
  | .object [] => ['\x7b', '\x7d']
  | .object (field :: fields) =>
    ['\x7b'] ++ writeFields (depth + 1) true (field :: fields) ++ newline depth ++ ['\x7d']

/-- Named values, each on a line of its own, with a comma before each but the first. -/
def writeFields (depth : Nat) (isFirst : Bool) : List (String × Value) → List Char
  | [] => []
  | (name, value) :: fields =>
    (if isFirst then [] else [',']) ++ newline depth ++ writeText name ++ [':', ' '] ++
      write depth value ++ writeFields depth false fields

end

def pretty (value : Value) : String :=
  String.ofList (value.write 0)

end Value

end LineEcho.Json
