import LineEcho.Echo.Session
import LineEcho.Proofs.Stream.Transcript

/-!
# What an echo session owes

A session has been delivered some chunks, and some octets have been accepted from it.  Between two
answers it is either even, when every chunk has gone back whole, or behind with the end of its last
chunk.  Its counters are those of the chunks that went back whole, in either case.

`Session.Tallies` says so for every phase, and `Session.Tallies.resume` shows that an answer keeps
it.  Nothing is assumed of who answers, so the lemma serves a session on scripts and one on pipes.
-/

namespace LineEcho

namespace Session

/-- The counters of some chunks: their octets and their number. -/
structure Counts (whole : List Bytes) (octets count : Nat) : Prop where
  octets_eq : octets = whole.flatten.length
  count_eq : count = whole.length

/-- Every chunk went back whole and was counted. -/
structure Even (chunks : List Bytes) (accepted : Bytes) (octets count : Nat) : Prop where
  accepted_eq : accepted = chunks.flatten
  counts : Counts chunks octets count

/-- All chunks but the last one went back whole and were counted, and some octets at the end of the
last one have not gone back. -/
structure Behind (chunks : List Bytes) (accepted : Bytes) (octets count : Nat)
    (last unsent : Bytes) : Prop where
  unsent_ne_nil : unsent ≠ []
  split : ∃ whole sent, chunks = whole ++ [last] ∧ last = sent ++ unsent ∧
    accepted = whole.flatten ++ sent ∧ Counts whole octets count

/-- The result of the loop, the reason for leaving it, and what was owed then fit each other. -/
inductive LeftWith (chunks : List Bytes) (accepted : Bytes) (octets count : Nat) :
    Option CloseReason → Except Fault Unit → Prop where
  | peerClosed (even : Even chunks accepted octets count) :
      LeftWith chunks accepted octets count (some .peerClosed) (.ok ())
  | readFailed (fault : Fault) (even : Even chunks accepted octets count) :
      LeftWith chunks accepted octets count (some (.readFailed fault.text)) (.error fault)
  | writeFailed (fault : Fault) {last unsent : Bytes}
      (behind : Behind chunks accepted octets count last unsent) :
      LeftWith chunks accepted octets count (some (.writeFailed fault.text)) (.error fault)

/-- What a session owes, phase by phase. -/
def Tallies (chunks : List Bytes) (accepted : Bytes) (session : Session) : Prop :=
  match session.phase with
  | .accepted => Even chunks accepted session.octets session.chunks
  | .reading _ => Even chunks accepted session.octets session.chunks
  | .writing _ chunk unsent =>
    Behind chunks accepted session.octets session.chunks chunk unsent
  | .closing result =>
    LeftWith chunks accepted session.octets session.chunks session.reason result
  | .closed result =>
    LeftWith chunks accepted session.octets session.chunks session.reason result

theorem tallies_read_start (settings : EchoSettings) (now : Instant) :
    ((start settings).read now).Tallies [] [] :=
  ⟨rfl, rfl, rfl⟩

section Answers

variable {chunks : List Bytes} {accepted : Bytes} {octets count : Nat}

theorem Even.behind_of_read (even : Even chunks accepted octets count) {chunk : Bytes}
    (delivers : chunk ≠ []) :
    Behind (chunks ++ [chunk]) accepted octets count chunk chunk := by
  refine ⟨delivers, chunks, [], rfl, rfl, ?_, even.counts⟩
  rw [even.accepted_eq, List.append_nil]

theorem Behind.even_of_accepted {last unsent : Bytes}
    (behind : Behind chunks accepted octets count last unsent) :
    Even chunks (accepted ++ unsent) (octets + last.length) (count + 1) := by
  obtain ⟨whole, sent, rfl, rfl, rfl, counts⟩ := behind.split
  refine ⟨by simp, ?_, ?_⟩
  · simp [counts.octets_eq]
  · simp [counts.count_eq]

theorem Behind.behind_of_accepted {last unsent : Bytes} {part : Nat}
    (behind : Behind chunks accepted octets count last unsent) (rest : unsent.drop part ≠ []) :
    Behind chunks (accepted ++ unsent.take part) octets count last (unsent.drop part) := by
  obtain ⟨whole, sent, rfl, rfl, rfl, counts⟩ := behind.split
  refine ⟨rest, whole, sent ++ unsent.take part, rfl, ?_, by simp, counts⟩
  rw [List.append_assoc, List.take_append_drop]

theorem Even.accepted_prefix (even : Even chunks accepted octets count) :
    accepted <+: chunks.flatten :=
  even.accepted_eq ▸ List.prefix_refl _

theorem Behind.accepted_prefix {last unsent : Bytes}
    (behind : Behind chunks accepted octets count last unsent) : accepted <+: chunks.flatten := by
  obtain ⟨whole, sent, rfl, rfl, rfl, counts⟩ := behind.split
  simp

theorem LeftWith.accepted_prefix {reason : Option CloseReason} {result : Except Fault Unit}
    (left : LeftWith chunks accepted octets count reason result) :
    accepted <+: chunks.flatten := by
  cases left with
  | peerClosed even => exact even.accepted_prefix
  | readFailed fault even => exact even.accepted_prefix
  | writeFailed fault behind => exact behind.accepted_prefix

variable {session : Session}

theorem Tallies.accepted_prefix (tallies : session.Tallies chunks accepted) :
    accepted <+: chunks.flatten := by
  unfold Tallies at tallies
  split at tallies
  · exact tallies.accepted_prefix
  · exact tallies.accepted_prefix
  · exact tallies.accepted_prefix
  · exact tallies.accepted_prefix
  · exact tallies.accepted_prefix

theorem tallies_wrote (now since : Instant) {chunk unsent : Bytes} {part : Nat}
    (behind : Behind chunks accepted session.octets session.chunks chunk unsent) :
    (session.wrote now since chunk unsent part).Tallies chunks
      (accepted ++ unsent.take part) := by
  unfold wrote
  split
  · rename_i nothing
    rw [nothing, List.take_zero, List.append_nil]
    exact LeftWith.writeFailed .writeZero behind
  · split
    · rename_i complete
      have all : unsent.take part = unsent :=
        List.take_of_length_le (List.drop_eq_nil_iff.1 (List.isEmpty_iff.1 complete))
      rw [all]
      exact behind.even_of_accepted
    · rename_i incomplete
      exact behind.behind_of_accepted (fun nothing => incomplete (List.isEmpty_iff.2 nothing))

/-- Any answer that fits its request keeps the tallies of a session. -/
theorem Tallies.resume (now : Instant) (poll : Poll) (tallies : session.Tallies chunks accepted)
    (asks : session.request = some poll.asked) (fits : Answer.Fits poll.asked poll.answer) :
    (session.resume now poll.answer).Tallies (chunks ++ poll.chunk?.toList)
      (accepted ++ poll.accepted) := by
  obtain ⟨asked, answer, late⟩ := poll
  obtain ⟨settings, phase, octets, count, reason⟩ := session
  cases phase with
  | accepted => simp [request] at asks
  | reading since =>
    simp only [request, Option.some.injEq] at asks
    subst asks
    cases fits with
    | @delivered _ octets within =>
      cases octets with
      | nil =>
        simp only [Poll.chunk?, Poll.accepted, Option.toList_none, List.append_nil]
        exact LeftWith.peerClosed tallies
      | cons octet rest =>
        simp only [Poll.chunk?, Poll.accepted, Option.toList_some, List.append_nil]
        exact Even.behind_of_read tallies (List.cons_ne_nil _ _)
    | @failed _ fault =>
      simp only [Poll.chunk?, Poll.accepted, Option.toList_none, List.append_nil]
      exact LeftWith.readFailed fault tallies
  | writing since chunk unsent =>
    simp only [request, Option.some.injEq] at asks
    subst asks
    cases fits with
    | accepted within =>
      simp only [Poll.chunk?, Poll.accepted, Option.toList_none, List.append_nil]
      exact tallies_wrote now since tallies
    | interrupted =>
      simp only [Poll.chunk?, Poll.accepted, Option.toList_none, List.append_nil]
      exact tallies
    | @failed _ fault =>
      simp only [Poll.chunk?, Poll.accepted, Option.toList_none, List.append_nil]
      exact LeftWith.writeFailed fault tallies
  | closing result =>
    simp only [request, Option.some.injEq] at asks
    subst asks
    simp only [Poll.chunk?, Poll.accepted, Option.toList_none, List.append_nil]
    exact tallies
  | closed result => simp [request] at asks

end Answers

end Session

end LineEcho
