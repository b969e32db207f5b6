/-!
# Digits

The digits of the bases up to sixteen, and the numbers that they write.
-/

namespace LineEcho.Text

/-- The value of a digit of a base up to sixteen, in either case. -/
def digit? (base : Nat) (character : Char) : Option Nat :=
  let value :=
    if '0' ≤ character ∧ character ≤ '9' then some (character.toNat - '0'.toNat)
    else if 'a' ≤ character ∧ character ≤ 'f' then some (character.toNat - 'a'.toNat + 10)
    else if 'A' ≤ character ∧ character ≤ 'F' then some (character.toNat - 'A'.toNat + 10)
    else none
  value.filter (· < base)

/-- Whether a character is a digit of a base up to sixteen. -/
def isDigitOf (base : Nat) (character : Char) : Bool :=
  (digit? base character).isSome

/-- The number that digits of a base write. Other characters count as zero. -/
def numberOf (base : Nat) (digits : List Char) : Nat :=
  digits.foldl (fun total character => total * base + (digit? base character).getD 0) 0

end LineEcho.Text
