import LineEcho.Json.Value

/-!
# Reading JSON documents

`Value.parse?` accepts the documents of this library's values: objects, strings, natural numbers and
truth values, with any space between their parts.
-/

namespace LineEcho.Json

def skipSpace (text : List Char) : List Char :=
  text.dropWhile (fun character =>
    character == ' ' || character == '\t' || character == '\n' || character == '\r')

/-- The character of an escape, after its backslash. -/
def readEscape : List Char → Option (Char × List Char)
  | '"' :: rest => some ('"', rest)
  | '\\' :: rest => some ('\\', rest)
  | '/' :: rest => some ('/', rest)
  | 'b' :: rest => some ('\x08', rest)
  | 't' :: rest => some ('\t', rest)
  | 'n' :: rest => some ('\n', rest)
  | 'f' :: rest => some ('\x0C', rest)
  | 'r' :: rest => some ('\r', rest)
  | 'u' :: first :: second :: third :: fourth :: rest => do
    let digits ← [first, second, third, fourth].mapM (Text.digit? 16)
    let value := digits.foldl (fun total digit => total * 16 + digit) 0
    if value.isValidChar then some (Char.ofNat value, rest) else none
  | _ => none

/-- The rest of a string after its first quote, of at most so many characters. -/
def readBody : Nat → List Char → Option (List Char × List Char)
  | 0, _ => none
  | _, [] => none
  | count + 1, character :: rest =>
    if character = '"' then some ([], rest)
    else if character = '\\' then do
      let (escaped, rest) ← readEscape rest
      let (others, rest) ← readBody count rest
      some (escaped :: others, rest)
    else if character < ' ' then none
    else do
      let (others, rest) ← readBody count rest
      some (character :: others, rest)

def readText : List Char → Option (String × List Char)
  | '"' :: rest => (readBody rest.length rest).map (fun (body, rest) => (String.ofList body, rest))
  | _ => none

/-- A natural number. Only zero itself begins with a zero. -/
def readNumber (text : List Char) : Option (Nat × List Char) :=
  let digits := text.takeWhile Char.isDigit
  if digits.isEmpty ∨ (digits.head? = some '0' ∧ digits ≠ ['0']) then none
  else some (Text.numberOf 10 digits, text.dropWhile Char.isDigit)

/-- The named values of an object after its opening brace, with a reader for the values; at most so
many. -/
def readFields (value : List Char → Option (Value × List Char)) :
    Nat → List Char → Option (List (String × Value) × List Char)
  | 0, _ => none
  | count + 1, text => do
    let (name, rest) ← readText (skipSpace text)
    match skipSpace rest with
    | ':' :: rest => do
      let (first, rest) ← value (skipSpace rest)
      match skipSpace rest with
      | ',' :: rest => do
        let (others, rest) ← readFields value count rest
        some ((name, first) :: others, rest)
      | '\x7d' :: rest => some ([(name, first)], rest)
      | _ => none
    | _ => none

/-- A value inside fewer than so many objects. -/
def readValue : Nat → List Char → Option (Value × List Char)
  | 0, _ => none
  | depth + 1, text =>
    match text with
    | 't' :: 'r' :: 'u' :: 'e' :: rest => some (.boolean true, rest)
    | 'f' :: 'a' :: 'l' :: 's' :: 'e' :: rest => some (.boolean false, rest)
    | '"' :: rest => (readText ('"' :: rest)).map (fun (content, rest) => (.text content, rest))
    | '\x7b' :: rest =>
      match skipSpace rest with
      | '\x7d' :: rest => some (.object [], rest)
      | _ =>
        (readFields (readValue depth) rest.length rest).map
          (fun (fields, rest) => (.object fields, rest))
    | _ => (readNumber text).map (fun (value, rest) => (.number value, rest))

/-- The value of a text that is one document. -/
def Value.parse? (text : String) : Option Value := do
  let characters := skipSpace text.toList
  let (value, rest) ← readValue (characters.length + 1) characters
  if (skipSpace rest).isEmpty then some value else none

end LineEcho.Json
