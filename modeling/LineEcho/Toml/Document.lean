import LineEcho.Toml.Reader

/-!
# Reading whole documents

A document is a sequence of lines, each a header or a named value. A header opens a section, to
which the values up to the next header belong. `Document.parse` gives the tables and values of a
text, or nothing if the text is no document: if it is malformed, if a name is given twice, or if a
header or a name leads through something that it may not change.
-/

namespace LineEcho.Toml

/-- One line of a document. -/
inductive Statement
  | header (isRow : Bool) (path : List Key) (key : Key) (span : Span)
  | assignment (path : List Key) (key : Key) (value : Node)

def readHeader (text : List Char) : Option (Statement × List Char) := do
  let rest ← expect '[' text
  match rest with
  | '[' :: rest => do
    let ((path, key), rest) ← readName rest
    let rest ← expect ']' (← expect ']' rest)
    some (.header true path key (.between text rest), rest)
  | _ => do
    let ((path, key), rest) ← readName rest
    let rest ← expect ']' rest
    some (.header false path key (.between text rest), rest)

/-- One statement, without what follows it on its line. -/
def readStatement (text : List Char) : Option (Statement × List Char) :=
  match text with
  | '[' :: _ => readHeader text
  | _ =>
    (readAssignment (readValue deepest) text).map
      (fun ((path, key, value), rest) => (.assignment path key value, rest))

/-- The statements of a text of at most so many lines. -/
def readStatements : Nat → List Char → Option (List Statement)
  | _, [] => some []
  | 0, _ => none
  | count + 1, text =>
    match skipLineEnd text with
    | some rest => readStatements count rest
    | none => do
      let (statement, rest) ← readStatement (skipBlanks text)
      let others ← readStatements count (← skipLineEnd rest)
      some (statement :: others)

/-- Where the values of the open section belong: at the top, in a table, or in a new row of a list
of tables. -/
inductive Place
  | top
  | table (path : List Key) (key : Key) (span : Span)
  | row (path : List Key) (key : Key) (span : Span)

/-- The place of a section that also holds a value which ends later. -/
def Place.extended (stop : Span) : Place → Place
  | .top => .top
  | .table path key span => .table path key (span.through stop)
  | .row path key span => .row path key (span.through stop)

/-- A document in the making: the closed sections, the place of the open one, and its values. -/
structure Draft where
  closed : Entries
  place : Place
  values : Entries

namespace Draft

def start : Draft :=
  ⟨[], .top, []⟩

def close? (draft : Draft) : Option Entries :=
  match draft.place with
  | .top => some draft.values
  | .table path key span =>
    draft.closed.alterAt .header (Entries.putTable? key span draft.values) path
  | .row path key span =>
    draft.closed.alterAt .header (Entries.putRow? key span draft.values) path

/-- The draft after one more statement. A section begins with what longer headers have announced. -/
def add? (draft : Draft) : Statement → Option Draft
  | .header isRow path key span => do
    let closed ← draft.close?
    if isRow then some ⟨closed, .row path key span, []⟩
    else some ⟨closed, .table path key span, (closed.along path).announced key⟩
  | .assignment path key value => do
    let values ← draft.values.assign? path key value
    let place := (value.span?.map draft.place.extended).getD draft.place
    some { draft with place, values }

end Draft

def Entries.ofStatements? (statements : List Statement) : Option Entries := do
  let draft ← statements.foldlM Draft.add? Draft.start
  draft.close?

/-- The tables and values of a text. A byte order mark in front does not count. -/
def parse (text : List Char) : Option Entries := do
  let body := if text.head? = some (Char.ofNat 0xFEFF) then text.tail else text
  let statements ← readStatements (body.length + 1) body
  Entries.ofStatements? statements

end LineEcho.Toml
