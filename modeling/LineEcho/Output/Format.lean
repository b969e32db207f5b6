/-!
# Formats of output

Results are shown for people, for programs, or as tables.
-/

namespace LineEcho

/-- How results are shown: for people, for programs, or as tables. -/
inductive OutputFormat
  | text
  | json
  | table
  deriving DecidableEq, Repr, Inhabited

namespace OutputFormat

def all : List OutputFormat :=
  [text, json, table]

def name : OutputFormat → String
  | text => "text"
  | json => "json"
  | table => "table"

def ofName? (text : String) : Option OutputFormat :=
  all.find? (fun format => format.name == text)

end OutputFormat

end LineEcho
