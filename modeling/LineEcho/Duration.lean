/-!
# Lengths of time and their text

A duration is a number of nanoseconds. Its text uses the largest of the units s, ms, µs and ns of
which it holds at least one, with a decimal fraction that has no trailing zeros.
-/

namespace LineEcho

/-- A length of time in nanoseconds. -/
structure Duration where
  nanos : Nat
  deriving DecidableEq, Repr, Inhabited

namespace Duration

def ofMillis (millis : Nat) : Duration :=
  ⟨millis * 1000000⟩

/-- Timers fire on whole milliseconds, so a duration lasts until the first one that is not too
early. -/
def ticks (duration : Duration) : Nat :=
  (duration.nanos + 999999) / 1000000

@[simp]
theorem ticks_ofMillis (millis : Nat) : (ofMillis millis).ticks = millis := by
  simp only [ticks, ofMillis]
  omega

/-- A unit of time: its nanoseconds, the number of decimal places of a nanosecond in it, and its
symbol. -/
structure TimeUnit where
  nanos : Nat
  places : Nat
  symbol : String

/-- The units from the largest to the smallest. -/
def TimeUnit.all : List TimeUnit :=
  [⟨1000000000, 9, "s"⟩, ⟨1000000, 6, "ms"⟩, ⟨1000, 3, "µs"⟩]

/-- The nanosecond, in which any duration can be written. -/
def TimeUnit.smallest : TimeUnit :=
  ⟨1, 0, "ns"⟩

/-- The largest unit of which the duration holds at least one. -/
def timeUnit (duration : Duration) : TimeUnit :=
  (TimeUnit.all.find? (fun candidate => candidate.nanos ≤ duration.nanos)).getD .smallest

/-- The digits of a fraction with the given number of places, without its trailing zeros. -/
def fractionDigits (places fraction : Nat) : List Char :=
  let digits := Nat.toDigits 10 fraction
  let padded := List.replicate (places - digits.length) '0' ++ digits
  (padded.reverse.dropWhile (· == '0')).reverse

/-- The text of a duration, such as `1.5s`, `20ms` or `0ns`. -/
def text (duration : Duration) : String :=
  let timeUnit := duration.timeUnit
  let whole := toString (duration.nanos / timeUnit.nanos)
  match fractionDigits timeUnit.places (duration.nanos % timeUnit.nanos) with
  | [] => whole ++ timeUnit.symbol
  | digits => whole ++ "." ++ String.ofList digits ++ timeUnit.symbol

end Duration

end LineEcho
