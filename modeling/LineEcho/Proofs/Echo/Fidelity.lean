import LineEcho.Proofs.Echo.Tally

/-!
# Fidelity of the echo

What goes back on a connection is what came in on it.  A run of a session is compared with its
transcript: the octets that were accepted are a prefix of those that were delivered, and how much of
the last chunk is missing depends on why the session left the loop.  The counters are those of the
chunks that went back whole.

The transcript of a session has a fixed end.  One poll decides that the loop is left, and after it
there is only the shutdown.
-/

namespace LineEcho

/-- The chunks, from the first one on, whose octets were accepted whole. -/
def wholeChunks : List Bytes → Bytes → List Bytes
  | [], _ => []
  | chunk :: chunks, accepted =>
    if chunk <+: accepted then chunk :: wholeChunks chunks (accepted.drop chunk.length) else []

theorem wholeChunks_append (whole rest : List Bytes) (sent : Bytes) :
    wholeChunks (whole ++ rest) (whole.flatten ++ sent) = whole ++ wholeChunks rest sent := by
  induction whole with
  | nil => rfl
  | cons chunk whole ih => simp [wholeChunks, List.append_assoc, ih]

theorem wholeChunks_flatten (chunks : List Bytes) : wholeChunks chunks chunks.flatten = chunks := by
  simpa [wholeChunks] using wholeChunks_append chunks [] []

theorem wholeChunks_of_unsent (whole : List Bytes) (sent : Bytes) {unsent : Bytes}
    (missing : unsent ≠ []) :
    wholeChunks (whole ++ [sent ++ unsent]) (whole.flatten ++ sent) = whole := by
  have notWhole : ¬ (sent ++ unsent) <+: sent := by
    intro isPrefix
    have lengths := isPrefix.length_le
    have positive := List.length_pos_iff.2 missing
    simp only [List.length_append] at lengths
    omega
  rw [wholeChunks_append, wholeChunks, if_neg notWhole, List.append_nil]

/-- The polls after which a session leaves the loop for a reason: the end of what comes in, a read
that fails, and a write that fails or accepts nothing. -/
inductive Poll.Decides : Poll → CloseReason → Prop where
  | finished {room : Nat} {late : Bool} : Decides ⟨.read room, .received [], late⟩ .peerClosed
  | readFault {room : Nat} {fault : Fault} {late : Bool} :
      Decides ⟨.read room, .failed fault, late⟩ (.readFailed fault.text)
  | writeFault {octets : Bytes} {fault : Fault} {late : Bool} :
      Decides ⟨.write octets, .failed fault, late⟩ (.writeFailed fault.text)
  | nothingAccepted {octets : Bytes} {late : Bool} :
      Decides ⟨.write octets, .accepted 0, late⟩ (.writeFailed Fault.writeZero.text)

@[simp]
theorem Poll.Decides.chunk?_eq_none {poll : Poll} {reason : CloseReason}
    (decides : poll.Decides reason) : poll.chunk? = none := by
  cases decides <;> rfl

namespace Session

/-- The last poll decided for what is now the reason, and no poll before it was one to leave the
loop after. -/
structure DecidedBy (before : List Poll) (decisive : Poll) (session : Session) : Prop where
  decides : ∃ reason, session.reason = some reason ∧ decisive.Decides reason
  goesOn : ∀ poll ∈ before, poll.GoesOn

/-- How the transcript of a session looks in each phase. -/
def Settled (past : List Poll) (session : Session) : Prop :=
  match session.phase with
  | .accepted => False
  | .reading _ => ∀ poll ∈ past, poll.GoesOn
  | .writing _ _ _ => ∀ poll ∈ past, poll.GoesOn
  | .closing _ => ∃ before decisive, past = before ++ [decisive] ∧ session.DecidedBy before decisive
  | .closed _ => ∃ before decisive last, past = before ++ [decisive, last] ∧
      last.asked = .shutdown ∧ session.DecidedBy before decisive

theorem settled_wrote {now since : Instant} {chunk unsent octets : Bytes} {count : Nat}
    {late : Bool} {past : List Poll} {session : Session}
    (before : ∀ poll ∈ past, poll.GoesOn) :
    (session.wrote now since chunk unsent count).Settled
      (past ++ [⟨.write octets, .accepted count, late⟩]) := by
  unfold wrote
  split
  · rename_i nothing
    subst nothing
    exact ⟨past, _, rfl, ⟨_, rfl, .nothingAccepted⟩, before⟩
  · rename_i moves
    have goesOn : Poll.GoesOn ⟨.write octets, .accepted count, late⟩ :=
      ⟨rfl, Poll.fault?_of_accepted moves⟩
    split
    · exact forall_polls_concat before goesOn
    · exact forall_polls_concat before goesOn

/-- Any answer that fits its request keeps the transcript of a session settled. -/
theorem Settled.resume (now : Instant) {past : List Poll} {poll : Poll} {session : Session}
    (settled : session.Settled past) (asks : session.request = some poll.asked)
    (fits : Answer.Fits poll.asked poll.answer) :
    (session.resume now poll.answer).Settled (past ++ [poll]) := by
  obtain ⟨asked, answer, late⟩ := poll
  obtain ⟨settings, phase, octets, count, reason⟩ := session
  cases phase with
  | accepted => simp [request] at asks
  | reading since =>
    simp only [request, Option.some.injEq] at asks
    subst asks
    cases fits with
    | @delivered _ octets within =>
      cases octets with
      | nil => exact ⟨past, _, rfl, ⟨_, rfl, .finished⟩, settled⟩
      | cons octet rest => exact forall_polls_concat settled ⟨rfl, rfl⟩
    | failed => exact ⟨past, _, rfl, ⟨_, rfl, .readFault⟩, settled⟩
  | writing since chunk unsent =>
    simp only [request, Option.some.injEq] at asks
    subst asks
    cases fits with
    | accepted within => exact settled_wrote settled
    | interrupted => exact forall_polls_concat settled ⟨rfl, rfl⟩
    | failed => exact ⟨past, _, rfl, ⟨_, rfl, .writeFault⟩, settled⟩
  | closing result =>
    simp only [request, Option.some.injEq] at asks
    subst asks
    obtain ⟨before, decisive, rfl, decided⟩ := settled
    exact ⟨before, decisive, _, List.append_assoc _ _ _, rfl, decided.decides, decided.goesOn⟩
  | closed result => simp [request] at asks

section Counters

variable {chunks : List Bytes} {accepted : Bytes} {octets count : Nat}

theorem Even.octets_eq (even : Even chunks accepted octets count) : octets = accepted.length := by
  rw [even.accepted_eq, even.counts.octets_eq]

theorem Even.counts_wholeChunks (even : Even chunks accepted octets count) :
    Counts (wholeChunks chunks accepted) octets count := by
  rw [even.accepted_eq, wholeChunks_flatten]
  exact even.counts

theorem Behind.counts_wholeChunks {last unsent : Bytes}
    (behind : Behind chunks accepted octets count last unsent) :
    Counts (wholeChunks chunks accepted) octets count := by
  obtain ⟨whole, sent, rfl, rfl, rfl, counts⟩ := behind.split
  rw [wholeChunks_of_unsent whole sent behind.unsent_ne_nil]
  exact counts

/-- What was accepted of a chunk that is still owed is a strict beginning of it, and the octets that
were counted come before it. -/
theorem Behind.accepted_eq {last unsent : Bytes}
    (behind : Behind chunks accepted octets count last unsent) :
    chunks.getLast? = some last ∧ ∃ sent, sent <+: last ∧ sent ≠ last ∧
      accepted = chunks.flatten.take octets ++ sent := by
  obtain ⟨whole, sent, rfl, rfl, rfl, counts⟩ := behind.split
  refine ⟨by simp, sent, List.prefix_append _ _, ?_, ?_⟩
  · intro same
    exact behind.unsent_ne_nil (List.self_eq_append_right.1 same)
  · simp [counts.octets_eq]

theorem LeftWith.counts_wholeChunks {reason : Option CloseReason} {result : Except Fault Unit}
    (left : LeftWith chunks accepted octets count reason result) :
    Counts (wholeChunks chunks accepted) octets count := by
  cases left with
  | peerClosed even => exact even.counts_wholeChunks
  | readFailed fault even => exact even.counts_wholeChunks
  | writeFailed fault behind => exact behind.counts_wholeChunks

end Counters

/-- The transcript of the first run of a session. -/
def polls (settings : EchoSettings) (now : Instant) (streams : Streams) : List Poll :=
  machine.polls ⟨now, (start settings).read now, streams, false⟩

theorem run_tallies_settled (settings : EchoSettings) (now : Instant) (streams : Streams) :
    let session := ((start settings).run now streams).session
    let past := polls settings now streams
    session.Tallies (deliveredChunks past) (acceptedOctets past) ∧ session.Settled past ∧
      ∃ result, session.phase = .closed result := by
  intro session past
  have kept := machine.finish_polls_invariant
    (fun progress past =>
      progress.state.Tallies (deliveredChunks past) (acceptedOctets past) ∧
        progress.state.Settled past)
    (by
      rintro progress past asked asks ⟨tallies, settled⟩
      have fits := Streams.await_fits (machine.deadline progress.state) progress.now
        progress.streams asked
      rw [deliveredChunks_concat, acceptedOctets_concat]
      exact ⟨Tallies.resume _ _ tallies asks fits,
        Settled.resume _ settled asks fits⟩)
    ⟨now, (start settings).read now, streams, false⟩ []
    ⟨tallies_read_start settings now, by simp [Settled, read]⟩
  refine ⟨kept.1, kept.2, ?_⟩
  have asksNothing : session.request = none := machine.request_finish _
  have settled : session.Settled past := kept.2
  cases phase : session.phase with
  | closed result => exact ⟨result, rfl⟩
  | accepted => simp [Settled, phase] at settled
  | reading since => simp [request, phase] at asksNothing
  | writing since chunk unsent => simp [request, phase] at asksNothing
  | closing result => simp [request, phase] at asksNothing

/-- **Echo fidelity.**  Whatever the streams do, whether or not they have an interrupted write tried
again, and whatever the limits are, the octets that are accepted in the first run of a session are a
prefix of those that were delivered, which are those of the script in their order.  The counters of
the summary are those of the chunks that went back whole.  One poll decides for the reason in the
summary, the first one that fails or finds that nothing more comes in, and only the shutdown comes
after it.  When the peer closed or a read failed, all that was delivered before went back and was
counted; when a write failed, a strict beginning of the last chunk went back uncounted. -/
theorem echo_fidelity (settings : EchoSettings) (now : Instant) (streams : Streams) :
    let run := (start settings).run now streams
    let summary := run.session.summary
    let past := polls settings now streams
    let accepted := acceptedOctets past
    let delivered := deliveredOctets past
    let whole := wholeChunks (deliveredChunks past) accepted
    run.streams.log.toList = streams.log.toList ++ past.filterMap Poll.entry ∧
    delivered ++ Incoming.payload run.streams.incoming.steps =
      Incoming.payload streams.incoming.steps ∧
    accepted <+: delivered ∧
    summary.chunks = whole.length ∧ summary.octets = whole.flatten.length ∧
    ∃ before decisive last reason,
      past = before ++ [decisive, last] ∧ last.asked = .shutdown ∧
      summary.reason = some reason ∧ decisive.Decides reason ∧
      (∀ poll ∈ before, poll.GoesOn) ∧
      match reason with
      | .peerClosed | .readFailed _ =>
        accepted = deliveredOctets before ∧ summary.octets = accepted.length
      | .writeFailed _ =>
        ∃ chunk sent, (deliveredChunks before).getLast? = some chunk ∧
          sent <+: chunk ∧ sent ≠ chunk ∧
          accepted = delivered.take summary.octets ++ sent := by
  intro run summary past accepted delivered whole
  obtain ⟨tallies, settled, result, phase⟩ := run_tallies_settled settings now streams
  simp only [Tallies, phase] at tallies
  simp only [Settled, phase] at settled
  obtain ⟨before, decisive, last, ends, shuts, ⟨reason, isReason, decides⟩, goesOn⟩ := settled
  have counts := tallies.counts_wholeChunks
  refine ⟨machine.log_finish _, machine.payload_finish _, tallies.accepted_prefix,
    counts.count_eq, counts.octets_eq, before, decisive, last, reason, ends, shuts, isReason,
    decides, goesOn, ?_⟩
  -- neither the decisive poll nor the shutdown delivers anything
  have same : deliveredChunks before = deliveredChunks past := by
    have nothing : last.chunk? = none := by simp [Poll.chunk?, shuts]
    simp [past, ends, deliveredChunks, decides.chunk?_eq_none, nothing]
  rw [isReason] at tallies
  cases tallies with
  | peerClosed even =>
    exact ⟨by simpa only [deliveredOctets, same] using even.accepted_eq, even.octets_eq⟩
  | readFailed fault even =>
    exact ⟨by simpa only [deliveredOctets, same] using even.accepted_eq, even.octets_eq⟩
  | writeFailed fault behind =>
    obtain ⟨isLast, sent, isPrefix, strict, split⟩ := behind.accepted_eq
    exact ⟨_, sent, by rw [same, isLast], isPrefix, strict, split⟩

/-- A peer that sends three octets and ends, and whose side takes one octet of the echo before a
write is interrupted. -/
def interruptedEcho (retries : Bool) : Streams :=
  { (default : Streams) with
    incoming := .ofSteps [.answer (.data [1, 2, 3]), .answer .finished]
    outgoing := .ofSteps [.answer (.take 1), .answer (.fails (.plain .interrupted))]
    retries := retries }

-- The chunk is lost to the counters where an interrupted write fails, and goes back whole where it
-- is tried again.
example : ((start default).run 0 (interruptedEcho false)).session.summary =
    ⟨0, 0, some (.writeFailed "operation interrupted")⟩ := by
  cbv

example : ((start default).run 0 (interruptedEcho true)).session.summary =
    ⟨3, 1, some .peerClosed⟩ := by
  cbv

end Session

end LineEcho
