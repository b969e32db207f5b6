import Mathlib.Algebra.GroupWithZero.Nat
import LineEcho.Receipt

/-!
# Receipts of octet strings

A receipt is fed in chunks, but what it says depends on the octets alone.  `Receipt.ofOctets` is the
receipt of a string, and recording a chunk is appending it.
-/

namespace LineEcho

namespace Receipt

/-- The receipt of an octet string, however it came in. -/
def ofOctets (capture : Bool) (octets : Bytes) : Receipt where
  total := octets.length
  captured := if capture then some octets else none
  tail := lastOctets octets

/-- The last octets are found in the last octets of what came first and all that came then. -/
theorem lastOctets_append (first second : Bytes) :
    lastOctets (lastOctets first ++ second) = lastOctets (first ++ second) := by
  simp only [lastOctets, List.drop_append, List.length_append, List.length_drop, List.drop_drop]
  congr 1
  · congr 1; omega
  · congr 1; omega

@[simp]
theorem record_ofOctets (capture : Bool) (octets chunk : Bytes) :
    (ofOctets capture octets).record chunk = ofOctets capture (octets ++ chunk) := by
  simp only [ofOctets, record, lastOctets_append, List.length_append]
  cases capture <;> rfl

theorem foldl_record (capture : Bool) (octets : Bytes) (chunks : List Bytes) :
    chunks.foldl record (ofOctets capture octets) =
      ofOctets capture (octets ++ chunks.flatten) := by
  induction chunks generalizing octets with
  | nil => simp
  | cons chunk others ih => simp [ih]

/-- The chunks of an octet string make up its receipt, wherever it was cut. -/
theorem foldl_record_empty (capture : Bool) (chunks : List Bytes) :
    chunks.foldl record (.empty capture) = ofOctets capture chunks.flatten :=
  foldl_record capture [] chunks

theorem lastOctets_suffix (octets : Bytes) : lastOctets octets <:+ octets :=
  List.drop_suffix _ _

theorem length_lastOctets (octets : Bytes) :
    (lastOctets octets).length = min Line.endRecord.length octets.length := by
  rw [lastOctets, List.length_drop]
  omega

/-- A receipt shows the end record when the octets end in it. -/
theorem endsInEndRecord_ofOctets (capture : Bool) (octets : Bytes) :
    (ofOctets capture octets).endsInEndRecord = true ↔ Line.endRecord <:+ octets := by
  simp only [ofOctets, endsInEndRecord, lastOctets, beq_iff_eq]
  rw [List.suffix_iff_eq_drop]
  exact eq_comm

/-- **What a receipt observes.**  After each chunk a receipt has counted the octets that came so
far, has kept exactly these if it was asked to, remembers the last of them, as many as the end
record has, and shows the end record when they end in it.  So the octets decide, and not where they
were cut: two ways to cut the same octets give the same receipt. -/
theorem observes_octets (capture : Bool) (chunks : List Bytes) :
    (∀ count : Nat,
      let soFar := chunks.take count
      let receipt := soFar.foldl record (.empty capture)
      receipt.total = (soFar.map List.length).sum ∧
      receipt.captured = (if capture then some soFar.flatten else none) ∧
      receipt.tail <:+ soFar.flatten ∧
      receipt.tail.length = min Line.endRecord.length receipt.total ∧
      (receipt.endsInEndRecord = true ↔ Line.endRecord <:+ soFar.flatten)) ∧
    ∀ others : List Bytes, others.flatten = chunks.flatten →
      others.foldl record (.empty capture) = chunks.foldl record (.empty capture) := by
  refine ⟨fun count => ?_, fun others same => ?_⟩
  · intro soFar receipt
    have receipt_eq : receipt = ofOctets capture soFar.flatten := foldl_record_empty capture soFar
    rw [receipt_eq]
    refine ⟨List.length_flatten, rfl, lastOctets_suffix _, length_lastOctets _, ?_⟩
    exact endsInEndRecord_ofOctets capture soFar.flatten
  · rw [foldl_record_empty, foldl_record_empty, same]

end Receipt

end LineEcho
