/-!
# Stretches of a text, and the excerpt that points one out

A stretch is known by what is left of the text at its start and at its end, which is what a reader
has at hand. The excerpt names the line and the column of the start and puts carets under the
stretch, as far as it lies on that line.
-/

namespace LineEcho.Toml

/-- A stretch of a text: the numbers of characters from its start and from its stop to the end of
the text. -/
structure Span where
  fromStart : Nat
  fromStop : Nat
  deriving DecidableEq, Repr, Inhabited

namespace Span

/-- The stretch between two rests of one text. -/
def between (atStart atStop : List Char) : Span :=
  ⟨atStart.length, atStop.length⟩

/-- From the start of one stretch to the stop of another. -/
def through (first last : Span) : Span :=
  ⟨first.fromStart, last.fromStop⟩

def octets (text : List Char) : Nat :=
  text.foldl (fun total character => total + character.utf8Size) 0

/-- What stands on the line before a point, given the text before that point. -/
def lineBefore (before : List Char) : List Char :=
  (before.reverse.takeWhile (· != '\n')).reverse

/-- The line and the column of the start of a stretch, both from one, the line itself, and the
carets under the stretch. There is at least one caret, and none beyond the end of the line. -/
def excerpt (span : Span) (text : List Char) : String :=
  let before := text.take (text.length - span.fromStart)
  let after := text.drop (text.length - span.fromStart)
  let stretch := after.take (span.fromStart - span.fromStop)
  let column := (lineBefore before).length
  let source := lineBefore before ++ after.takeWhile (· != '\n')
  let number := toString (before.count '\n' + 1)
  let gutter := String.ofList (List.replicate (number.length + 1) ' ') ++ "|"
  let carets := max 1 (min (octets stretch) (octets source - column))
  "TOML parse error at line " ++ number ++ ", column " ++ toString (column + 1) ++ "\n" ++
    gutter ++ "\n" ++ number ++ " | " ++ String.ofList source ++ "\n" ++
    gutter ++ String.ofList (List.replicate (column + 1) ' ' ++ List.replicate carets '^') ++ "\n"

end Span

end LineEcho.Toml
