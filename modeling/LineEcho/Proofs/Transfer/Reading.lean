import LineEcho.Proofs.Transfer.Pieces
import LineEcho.Proofs.Transfer.Splitting

/-!
# Reading a file from a script

A script may cut a file into chunks, and let each of them be waited for, in many ways.  A source of
lines does not notice: it yields the lines of the octets that the script holds, as long as the
script delivers them all and fails nowhere.
-/

namespace LineEcho

namespace Incoming

/-- The scripts that hold some octets, all of which they deliver before the end. -/
inductive Holds : List (Step Incoming) → Bytes → Prop where
  | nil : Holds [] []
  | wait (millis : Nat) {steps : List (Step Incoming)} {octets : Bytes}
      (rest : Holds steps octets) : Holds (.wait millis :: steps) octets
  | data {chunk : Bytes} (delivers : chunk ≠ []) {steps : List (Step Incoming)} {octets : Bytes}
      (rest : Holds steps octets) : Holds (.answer (.data chunk) :: steps) (chunk ++ octets)
  | finished {steps : List (Step Incoming)} (rest : Holds steps []) :
      Holds (.answer .finished :: steps) []

/-- What such a script delivers is its octets and nothing after them. -/
theorem Holds.inputs {steps : List (Step Incoming)} {octets : Bytes} (holds : Holds steps octets) :
    Input.Deliver octets (Incoming.inputs steps) := by
  induction holds with
  | nil => exact ⟨0, rfl⟩
  | wait millis rest ih => exact ih
  | finished rest ih =>
    obtain ⟨count, inputs_eq⟩ := ih
    exact ⟨count + 1, congrArg (Input.nothing :: ·) inputs_eq⟩
  | @data chunk delivers steps octets rest ih =>
    obtain ⟨count, inputs_eq⟩ := ih
    obtain ⟨octet, others, rfl⟩ := List.exists_cons_of_ne_nil delivers
    refine ⟨count, ?_⟩
    rw [Incoming.inputs, inputs_eq, Input.ofOctets_append, List.append_assoc]
    rfl

end Incoming

namespace LineSource

/-- A source yields the lines of what it has to read, if that is octets and nothing after them. -/
theorem yield_of_deliver {source : LineSource} {streams : Streams} {content : Bytes} (now : Instant)
    (has_room : 0 < source.capacity) (deliver : Input.Deliver content (source.inputs streams)) :
    source.yield now streams = .ofOctets source.endings content := by
  -- by induction on the lines: each call takes one off
  induction now, source, streams using yield_induction generalizing content with
  | step now source streams ih =>
    obtain ⟨continues, plain, takes, outcome_eq, -⟩ := LineSearch.run_takes now streams has_room
    obtain ⟨after, deliverAfter, cut_eq⟩ := deliver.takeLine
    rw [Input.takes_iff.1 takes] at deliverAfter cut_eq
    rw [yield_eq_ofOutcome, Yield.ofOutcome]
    cases plain with
    | error fault => cases cut_eq
    | ok found =>
      cases found with
      | none =>
        simp only [outcome_eq, LineEndings.applyTo]
        rw [show content = [] from cut_eq]
        rfl
      | some line =>
        have cut_eq : Line.cut content = line :: Line.cut after := cut_eq
        have outcome_eq : _ = Except.ok (some (source.endings.apply line)) := outcome_eq
        have later := ih _ outcome_eq (continues.capacity_eq ▸ has_room) deliverAfter
        simp only [outcome_eq, later, continues.endings_eq]
        simp only [Yield.ofOctets, Yield.after, LineEndings.linesOf, cut_eq]
        rfl

/-- A source yields the lines of what its buffer and its script hold, however the script delivers
it. -/
theorem yield_of_holds {source : LineSource} {streams : Streams} {unread : Bytes} (now : Instant)
    (has_room : 0 < source.capacity) (holds : Incoming.Holds streams.source.steps unread) :
    source.yield now streams = .ofOctets source.endings (source.buffered ++ unread) := by
  obtain ⟨count, inputs_eq⟩ := holds.inputs
  refine yield_of_deliver now has_room ⟨count, ?_⟩
  rw [inputs, inputs_eq, Input.ofOctets_append, List.append_assoc]

end LineSource

end LineEcho
