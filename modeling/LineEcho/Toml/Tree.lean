import LineEcho.Toml.Number
import LineEcho.Toml.Span

/-!
# Documents as trees

A table is a list of named values in the order in which their names first appeared. How a table came
about decides what may still be added to it: a header may lead through any table but one in braces,
and the dotted name of a value only through tables that no header has named yet, and it has to end
at one that dotted names brought about.
-/

namespace LineEcho.Toml

/-- The name of a value, with the place of its first appearance. -/
structure Key where
  name : String
  span : Span
  deriving DecidableEq, Repr, Inhabited

/-- A value without parts. -/
inductive Scalar
  | text (content : String)
  | integer (value : Int)
  | floating (value : Floating)
  | boolean (value : Bool)
  | moment
  deriving DecidableEq, Repr

/-- How a table came about: by its own header, by a longer header, by the dotted name of a value, or
in braces. -/
inductive Origin
  | header
  | longerHeader
  | dottedName
  | braces
  deriving DecidableEq, Repr

/-- A value, with its place in the text. Tables that a longer name brought about have none. The rows
of a list of tables each have the place of their header. -/
inductive Node where
  | scalar (span : Span) (value : Scalar)
  | array (span : Span) (elements : List Node)
  | table (span : Option Span) (origin : Origin) (entries : List (Key × Node))
  | rows (tables : List (Span × List (Key × Node)))

/-- The named values of a table. -/
abbrev Entries := List (Key × Node)

namespace Node

/-- The place of a value, if it has one. -/
def span? : Node → Option Span
  | scalar span _ => some span
  | array span _ => some span
  | table span _ _ => span
  | rows tables =>
    match tables.head?, tables.getLast? with
    | some (first, _), some (last, _) => some (first.through last)
    | _, _ => none

end Node

namespace Entries

def get? (entries : Entries) (name : String) : Option Node :=
  (entries.find? (fun entry => entry.1.name == name)).map (·.2)

/-- The entries with another value for a name that is there. -/
def replace (entries : Entries) (name : String) (value : Node) : Entries :=
  entries.map (fun entry => if entry.1.name == name then (entry.1, value) else entry)

def erase (entries : Entries) (name : String) : Entries :=
  entries.filter (fun entry => entry.1.name != name)

/-- The entries with a new name at the end, unless that name is there. -/
def insert? (entries : Entries) (key : Key) (value : Node) : Option Entries :=
  if (entries.get? key.name).isSome then none else some (entries ++ [(key, value)])

end Entries

/-- What a chain of names belongs to. -/
inductive Approach
  | header
  | dottedName
  deriving DecidableEq, Repr

/-- The origin of the tables that a chain of names brings about. -/
def Approach.origin : Approach → Origin
  | header => .longerHeader
  | dottedName => .dottedName

/-- Whether a chain of names may lead through a table, or end there. -/
def Approach.enters (isEnd : Bool) : Approach → Origin → Bool
  | header, origin => origin != .braces
  | dottedName, origin => origin == .dottedName || (origin == .longerHeader && !isEnd)

namespace Entries

/-- Changes the entries of the table at the end of a chain of names, which is brought about as far
as it is missing. A header leads into the last row of a list of tables. -/
def alterAt (approach : Approach) (change : Entries → Option Entries) :
    List Key → Entries → Option Entries
  | [], entries => change entries
  | key :: path, entries =>
    match entries.get? key.name with
    | none =>
      (alterAt approach change path []).map
        (fun inner => entries ++ [(key, .table none approach.origin inner)])
    | some (.table span origin inner) =>
      if approach.enters path.isEmpty origin then
        (alterAt approach change path inner).map
          (fun inner => entries.replace key.name (.table span origin inner))
      else none
    | some (.rows tables) =>
      match approach, tables.getLast? with
      | .header, some (span, inner) =>
        (alterAt approach change path inner).map
          (fun inner => entries.replace key.name (.rows (tables.dropLast ++ [(span, inner)])))
      | _, _ => none
    | some _ => none

/-- Gives a value to a dotted name, given as the chain of names before the last one, and the last
one. -/
def assign? (path : List Key) (key : Key) (value : Node) (entries : Entries) : Option Entries :=
  alterAt .dottedName (insert? · key value) path entries

/-- The entries of the table that a header's chain of names leads to, as far as it is there. -/
def along : List Key → Entries → Entries
  | [], entries => entries
  | key :: path, entries =>
    match entries.get? key.name with
    | some (.table _ _ inner) => along path inner
    | some (.rows tables) => along path ((tables.getLast?.map (·.2)).getD [])
    | _ => []

/-- What longer headers have already put into the table of a name. -/
def announced (entries : Entries) (key : Key) : Entries :=
  match entries.get? key.name with
  | some (.table _ .longerHeader inner) => inner
  | _ => []

/-- Puts a table of its own header at the end, unless its name is taken by anything but longer
headers. -/
def putTable? (key : Key) (span : Span) (values entries : Entries) : Option Entries :=
  let put := entries.erase key.name ++ [(key, .table (some span) .header values)]
  match entries.get? key.name with
  | none => some put
  | some (.table _ .longerHeader _) => some put
  | some _ => none

/-- Adds a row to the list of tables of a name, or begins one. -/
def putRow? (key : Key) (span : Span) (values entries : Entries) : Option Entries :=
  match entries.get? key.name with
  | none => some (entries ++ [(key, .rows [(span, values)])])
  | some (.rows tables) => some (entries.replace key.name (.rows (tables ++ [(span, values)])))
  | some _ => none

end Entries

end LineEcho.Toml
