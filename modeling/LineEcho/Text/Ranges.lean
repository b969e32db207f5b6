/-!
# Ranges of characters

The properties of characters that matter here are given by the ranges of those that have them.
-/

namespace LineEcho.Text

/-- Ranges of characters: the first and the last one of each. -/
abbrev Ranges := Array (Nat × Nat)

/-- Whether one of the ranges holds a character. -/
def Ranges.contains (ranges : Ranges) (character : Char) : Bool :=
  ranges.any (fun (first, last) => first ≤ character.toNat && character.toNat ≤ last)

end LineEcho.Text
