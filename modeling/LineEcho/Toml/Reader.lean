import LineEcho.Toml.Quoted
import LineEcho.Toml.Tree

/-!
# Reading names and values

Values nest, but not without limit: `deepest` counts the brackets and braces that may be open at one
place, and it also bounds the length of a dotted name.
-/

namespace LineEcho.Toml

/-- The greatest depth of nested values, and the greatest number of parts of a dotted name. -/
def deepest : Nat :=
  79

/-! ### Names -/

def isBare (character : Char) : Bool :=
  character.isAlphanum || character == '-' || character == '_'

def readPart : Reader (List Char)
  | '"' :: rest => readBody .double rest
  | '\'' :: rest => readBody .single rest
  | text =>
    match text.takeWhile isBare with
    | [] => none
    | name => some (name, text.dropWhile isBare)

/-- One part of a name with its place, and the blanks around it. -/
def readKey : Reader Key := fun text =>
  let text := skipBlanks text
  (readPart text).map
    (fun (name, rest) => (⟨String.ofList name, .between text rest⟩, skipBlanks rest))

/-- The parts of a name with points between them, at most so many of them. -/
def readParts : Nat → Reader (List Key)
  | 0, _ => none
  | count + 1, text => do
    let (key, rest) ← readKey text
    match rest with
    | '.' :: rest => do
      let (keys, rest) ← readParts count rest
      some (key :: keys, rest)
    | _ => some ([key], rest)

/-- A name: the chain of its parts before the last one, and the last one. -/
def readName : Reader (List Key × Key) := fun text => do
  let (keys, rest) ← readParts deepest text
  let last ← keys.getLast?
  some ((keys.dropLast, last), rest)

/-! ### Values without parts -/

/-- What starts with a digit or a sign. -/
def readNumeric (text : List Char) : Option (Scalar × List Char) :=
  match skipMoment text with
  | some rest => some (.moment, rest)
  | none =>
    match readFloating text with
    | some (value, rest) => some (.floating value, rest)
    | none => (readInteger text).map (fun (value, rest) => (.integer value, rest))

def readScalar : Reader Scalar
  | '"' :: rest =>
    (readQuoted .double rest).map (fun (content, rest) => (.text (String.ofList content), rest))
  | '\'' :: rest =>
    (readQuoted .single rest).map (fun (content, rest) => (.text (String.ofList content), rest))
  | 't' :: 'r' :: 'u' :: 'e' :: rest => some (.boolean true, rest)
  | 'f' :: 'a' :: 'l' :: 's' :: 'e' :: rest => some (.boolean false, rest)
  | text => readNumeric text

/-! ### Values with parts -/

/-- Values with commas between them and perhaps one after the last, up to the closing bracket; at
most so many. -/
def readElements (element : Reader Node) : Nat → Reader (List Node)
  | 0, _ => none
  | count + 1, text => do
    let text ← skipFiller false text
    match text with
    | ']' :: rest => some ([], rest)
    | _ => do
      let (first, rest) ← element text
      let rest ← skipFiller false rest
      match rest with
      | ',' :: rest => do
        let (others, rest) ← readElements element count rest
        some (first :: others, rest)
      | ']' :: rest => some ([first], rest)
      | _ => none

/-- A name, the equals sign and a value. -/
def readAssignment (value : Reader Node) : Reader (List Key × Key × Node) := fun text => do
  let ((path, key), rest) ← readName text
  let (node, rest) ← value (skipBlanks (← expect '=' rest))
  some ((path, key, node), rest)

/-- Named values with commas between them, up to the closing brace; at most so many. They are added
to those that are there. -/
def readFields (value : Reader Node) : Nat → Entries → Reader Entries
  | 0, _, _ => none
  | count + 1, entries, text => do
    let ((path, key, node), rest) ← readAssignment value text
    let entries ← entries.assign? path key node
    match skipBlanks rest with
    | ',' :: rest => readFields value count entries rest
    | '\x7d' :: rest => some (entries, rest)
    | _ => none

/-- The named values of a table in braces, after the opening brace. -/
def readBraces (value : Reader Node) (text : List Char) : Option (Entries × List Char) :=
  match skipBlanks text with
  | '\x7d' :: rest => some ([], rest)
  | _ => readFields value text.length [] text

/-- A value in which at most so many brackets and braces are open at one place. -/
def readValue : Nat → Reader Node
  | depth, text =>
    match depth, text with
    | depth + 1, '[' :: rest =>
      (readElements (readValue depth) rest.length rest).map
        (fun (elements, left) => (.array (.between text left) elements, left))
    | depth + 1, '\x7b' :: rest =>
      (readBraces (readValue depth) rest).map
        (fun (entries, left) => (.table (some (.between text left)) .braces entries, left))
    | _, _ =>
      (readScalar text).map (fun (value, left) => (.scalar (.between text left) value, left))

end LineEcho.Toml
