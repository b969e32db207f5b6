import LineEcho.Line

/-!
# What came back on a connection

A receipt counts the octets that were echoed, keeps them if it was asked to, and remembers as many
of the last ones as the end record has. It cannot tell how the octets were cut into chunks.
-/

namespace LineEcho

/-- A running account of the octets that came back. The total is a natural number, taken never to
leave the 64 bits that a machine has for it. -/
structure Receipt where
  total : Nat
  captured : Option Bytes
  tail : Bytes
  deriving DecidableEq, Repr, Inhabited

namespace Receipt

/-- The receipt of nothing, which keeps the octets to come if asked to. -/
def empty (capture : Bool) : Receipt :=
  ⟨0, if capture then some [] else none, []⟩

/-- The last octets of a string, as many as the end record has. -/
def lastOctets (bytes : Bytes) : Bytes :=
  bytes.drop (bytes.length - Line.endRecord.length)

def record (receipt : Receipt) (chunk : Bytes) : Receipt where
  total := receipt.total + chunk.length
  captured := receipt.captured.map (· ++ chunk)
  tail := lastOctets (receipt.tail ++ chunk)

/-- Whether what came back so far ends in the end record. -/
def endsInEndRecord (receipt : Receipt) : Bool :=
  receipt.tail == Line.endRecord

end Receipt

end LineEcho
