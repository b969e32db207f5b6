import LineEcho.Stream.Streams

/-!
# One direction of a connection between two machines

A pipe carries octets in their order and has room for so many of them. A write is answered as soon
as there is room for one octet, a read as soon as one is carried, and either may move fewer octets
than it could. The end comes out of a pipe when it was shut and all that it carried has come out. A
pipe remembers what has come out of it.
-/

namespace LineEcho

/-- The octets that have come out, those on their way, the room for the latter, and whether the
sender has shut the pipe. -/
structure Pipe where
  room : Nat
  passed : Bytes
  carried : Bytes
  isShut : Bool
  deriving DecidableEq, Repr

namespace Pipe

def ofRoom (room : Nat) : Pipe :=
  ⟨room, [], [], false⟩

/-- All the octets that were put in, in their order. -/
def entered (pipe : Pipe) : Bytes :=
  pipe.passed ++ pipe.carried

def push (octets : Bytes) (pipe : Pipe) : Pipe :=
  { pipe with carried := pipe.carried ++ octets }

/-- The pipe with so many octets taken out. -/
def pop (count : Nat) (pipe : Pipe) : Pipe :=
  { pipe with
    passed := pipe.passed ++ pipe.carried.take count, carried := pipe.carried.drop count }

/-- The pipe once the sender has shut it. -/
def shut (pipe : Pipe) : Pipe :=
  { pipe with isShut := true }

@[simp]
theorem entered_push (octets : Bytes) (pipe : Pipe) :
    (pipe.push octets).entered = pipe.entered ++ octets := by
  simp [entered, push]

/-- What comes out was put in before. -/
@[simp]
theorem entered_pop (count : Nat) (pipe : Pipe) : (pipe.pop count).entered = pipe.entered := by
  simp [entered, pop]

@[simp]
theorem entered_shut (pipe : Pipe) : pipe.shut.entered = pipe.entered :=
  rfl

@[simp]
theorem passed_shut (pipe : Pipe) : pipe.shut.passed = pipe.passed :=
  rfl

/-- What a write may come to: some of the octets are put in. -/
inductive Writes (octets : Bytes) (pipe : Pipe) : Answer → Pipe → Prop where
  | part (count : Nat) (moves : 0 < count) (offered : count ≤ octets.length)
      (fits : pipe.carried.length + count ≤ pipe.room) :
      Writes octets pipe (.accepted count) (pipe.push (octets.take count))

/-- What a read may come to: some of the octets come out, or the end does. -/
inductive Reads (space : Nat) (pipe : Pipe) : Answer → Pipe → Prop where
  | part (count : Nat) (moves : 0 < count) (asked : count ≤ space)
      (carried : count ≤ pipe.carried.length) :
      Reads space pipe (.received (pipe.carried.take count)) (pipe.pop count)
  | finish (shut : pipe.isShut = true) (empty : pipe.carried = []) :
      Reads space pipe (.received []) pipe

/-- A write moves octets as long as there is room for one. -/
theorem exists_writes {octets : Bytes} {pipe : Pipe} (offered : octets ≠ [])
    (fits : pipe.carried.length < pipe.room) :
    ∃ answer after, Writes octets pipe answer after :=
  ⟨_, _, .part 1 Nat.one_pos (List.length_pos_iff.2 offered) fits⟩

/-- A read moves octets as long as one is carried. -/
theorem exists_reads {space : Nat} {pipe : Pipe} (asked : 0 < space)
    (carries : pipe.carried ≠ []) :
    ∃ answer after, Reads space pipe answer after :=
  ⟨_, _, .part 1 Nat.one_pos asked (List.length_pos_iff.2 carries)⟩

end Pipe

end LineEcho
