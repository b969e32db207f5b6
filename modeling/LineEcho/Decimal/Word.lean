/-!
# Words

The range of the integers that have 64 bits and a sign.
-/

namespace LineEcho.Word

def signedBound : Nat := 9223372036854775808

def greatestSigned : Nat := 9223372036854775807

def isSigned (value : Int) : Bool :=
  decide (-(signedBound : Int) ≤ value) && decide (value < signedBound)

end LineEcho.Word
