import LineEcho.Toml.Quoted

/-!
# Writing quoted texts

A text is written in the first of four styles that needs no escape for it: between double quotes,
between single quotes, and both again over several lines. If every style needs escapes, it goes
between double quotes, over several lines if it has several. A tab is escaped between double quotes
in any case.
-/

namespace LineEcho.Toml

/-- How a text is quoted: by which quote, and whether by three of them. -/
structure QuoteStyle where
  quote : Quote
  ofLines : Bool
  deriving DecidableEq, Repr

/-- The length of the longest run of a character, given the length of the run before the text. -/
def longestRun (character : Char) (run : Nat) : List Char → Nat
  | [] => run
  | first :: rest =>
    if first = character then longestRun character (run + 1) rest
    else max run (longestRun character 0 rest)

/-- A control character, which needs an escape everywhere. Tabs and newlines are none in this
sense. -/
def isControl (character : Char) : Bool :=
  character != '\n' && !isPlain character

def QuoteStyle.of (text : List Char) : QuoteStyle :=
  let controlled := text.any isControl
  let hasLines := text.contains '\n'
  let escaping := text.contains '\\'
  if !controlled && !escaping && longestRun '"' 0 text = 0 && !hasLines then ⟨.double, false⟩
  else if !controlled && longestRun '\'' 0 text = 0 && !hasLines then ⟨.single, false⟩
  else if !controlled && !escaping && longestRun '"' 0 text ≤ 2 then ⟨.double, true⟩
  else if !controlled && longestRun '\'' 0 text ≤ 2 then ⟨.single, true⟩
  else ⟨.double, hasLines⟩

/-- The digit of a value below sixteen, in upper case. -/
def upperDigit (value : Nat) : Char :=
  if value < 10 then Char.ofNat ('0'.toNat + value) else Char.ofNat ('A'.toNat + (value - 10))

def fourDigits (value : Nat) : List Char :=
  [value / 4096, value / 256, value / 16, value].map (fun shifted => upperDigit (shifted % 16))

/-- A character other than a quote between double quotes. -/
def escaped (ofLines : Bool) (character : Char) : List Char :=
  if character = '\x08' then ['\\', 'b']
  else if character = '\t' then ['\\', 't']
  else if character = '\n' then if ofLines then ['\n'] else ['\\', 'n']
  else if character = '\x0C' then ['\\', 'f']
  else if character = '\r' then ['\\', 'r']
  else if character = '\\' then ['\\', '\\']
  else if isPlain character then [character]
  else ['\\', 'u'] ++ fourDigits character.toNat

/-- A text between double quotes after a run of unescaped quotes. Over several lines two quotes may
stand together, and every third one is escaped. -/
def escapedAfter (ofLines : Bool) (run : Nat) : List Char → List Char
  | [] => []
  | character :: rest =>
    if character = '"' then
      if run < (if ofLines then 2 else 0) then '"' :: escapedAfter ofLines (run + 1) rest
      else '\\' :: '"' :: escapedAfter ofLines 0 rest
    else escaped ofLines character ++ escapedAfter ofLines 0 rest

def QuoteStyle.marks (style : QuoteStyle) : List Char :=
  List.replicate (if style.ofLines then 3 else 1) style.quote.mark

/-- A text in a style. If it has several lines, it begins on a line of its own. -/
def QuoteStyle.write (style : QuoteStyle) (text : List Char) : List Char :=
  let opening := style.marks ++ (if style.ofLines && text.contains '\n' then ['\n'] else [])
  let body :=
    match style.quote with
    | .double => escapedAfter style.ofLines 0 text
    | .single => text
  opening ++ body ++ style.marks

def writeQuoted (text : List Char) : List Char :=
  (QuoteStyle.of text).write text

end LineEcho.Toml
