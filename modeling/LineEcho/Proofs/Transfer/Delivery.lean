import LineEcho.Proofs.Stream.Alone
import LineEcho.Proofs.Transfer.Fidelity
import LineEcho.Transfer.Exchange

/-!
# The parts of a delivery

A delivery comes to what its parts come to one after the other: sending, and then finishing from the
moment at which sending was done.  Each of the parts is a machine inside the machine of the
delivery, which asks what the part asks and hands it the answers until the part is done.
-/

namespace LineEcho

/-- Where a run stands whose party is a part of another. -/
def Progress.embed {σ τ : Type} (inside : Instant → σ → τ) (progress : Progress σ) : Progress τ :=
  ⟨progress.now, inside progress.now progress.state, progress.streams, progress.late⟩

namespace Machine

variable {σ τ : Type}

/-- A machine works inside another one: as long as it asks for something, the other asks for that
and hands it the answer. -/
structure PartOf (part : Machine σ) (whole : Machine τ) (inside : Instant → σ → τ) : Prop where
  request_eq : ∀ {state asked}, part.request state = some asked →
    ∀ now, whole.request (inside now state) = some asked
  deadline_eq : ∀ {state asked}, part.request state = some asked →
    ∀ now, whole.deadline (inside now state) = part.deadline state
  resume_eq : ∀ {state asked}, part.request state = some asked →
    ∀ now later answer, whole.resume later answer (inside now state) =
      inside later (part.resume later answer state)

variable {part : Machine σ} {whole : Machine τ} {inside : Instant → σ → τ}

theorem PartOf.advance_embed (partOf : part.PartOf whole inside) {progress : Progress σ}
    {asked : Request} (asks : part.request progress.state = some asked) :
    whole.advance (progress.embed inside) asked = (part.advance progress asked).embed inside := by
  simp only [advance, Progress.embed, partOf.deadline_eq asks, partOf.resume_eq asks]

/-- The whole goes on from where the part ends. -/
theorem PartOf.finish_embed (partOf : part.PartOf whole inside) (progress : Progress σ) :
    whole.finish (progress.embed inside) = whole.finish ((part.finish progress).embed inside) := by
  fun_induction finish part progress with
  | case1 progress asks => rfl
  | case2 progress asked asks ih =>
    have asksToo : whole.request (progress.embed inside).state = some asked :=
      partOf.request_eq asks progress.now
    rw [whole.finish_of_request_eq_some asksToo, partOf.advance_embed asks]
    exact ih

end Machine

namespace Sending

theorem writeTimeout_found (now : Instant) (search : LineSource.Search × LineSource)
    (sending : Sending) : (found now search sending).writeTimeout = sending.writeTimeout := by
  obtain ⟨result, source⟩ := search
  cases result <;> rfl

theorem writeTimeout_resume (now : Instant) (answer : Answer) (sending : Sending) :
    (sending.resume now answer).writeTimeout = sending.writeTimeout := by
  simp only [resume]
  split
  · exact writeTimeout_found _ _ _
  · simp only [wrote]
    split
    · rfl
    · split
      · exact writeTimeout_found _ _ _
      · rfl
  · simp only [wrote]
    split
    · rfl
    · split <;> rfl
  · rfl
  · rfl
  · rfl

theorem writeTimeout_run (now : Instant) (source : LineSource) (writeTimeout : Option Duration)
    (streams : Streams) :
    (run now source writeTimeout streams).state.writeTimeout = writeTimeout := by
  refine machine.finish_invariant (fun later => later.state.writeTimeout = writeTimeout) ?_ _
    (writeTimeout_found _ _ _)
  intro later asked _ same
  exact (writeTimeout_resume _ _ _).trans same

theorem phase_eq_of_request {sending : Sending} (ended : sending.request = none) :
    sending.phase = .done sending.result := by
  cases phase : sending.phase <;> simp_all [request, result]

/-- Sending fails when reading the file or writing does. -/
theorem error_run {now : Instant} {source : LineSource} {writeTimeout : Option Duration}
    {streams : Streams} {error : Error}
    (failed : (run now source writeTimeout streams).state.result = .error error) :
    ∃ stage cause, error = .transfer stage cause := by
  obtain ⟨⟨written, follows, -⟩, -⟩ := kept_run now source writeTimeout streams
  have phase := phase_eq_of_request
    (machine.request_finish ⟨now, start now source writeTimeout, streams, false⟩)
  have phase : (run now source writeTimeout streams).state.phase = .done (.error error) :=
    phase.trans (congrArg Phase.done failed)
  -- `Follows` knows of two stages in which sending is done with an error
  simp only [Follows, phase] at follows
  split at follows
  all_goals simp_all

end Sending

namespace Finishing

theorem phase_eq_of_request {finishing : Finishing} (ended : finishing.request = none) :
    finishing.phase = .done finishing.result := by
  cases phase : finishing.phase <;> simp_all [request, result]

/-- Finishing fails in no other stage than its own. -/
def FailsAsFinalizing (finishing : Finishing) : Prop :=
  ∀ error, finishing.phase = .done (.error error) → ∃ cause, error = .transfer .finalizing cause

theorem FailsAsFinalizing.resume {finishing : Finishing} (fails : finishing.FailsAsFinalizing)
    (now : Instant) (answer : Answer) : (finishing.resume now answer).FailsAsFinalizing := by
  intro error failed
  simp only [Finishing.resume] at failed
  split at failed
  · exact fails error failed
  · cases failed
    exact ⟨_, rfl⟩
  · cases failed
  · cases failed

theorem error_run {now : Instant} {writeTimeout : Option Duration} {streams : Streams}
    {error : Error} (failed : (run now writeTimeout streams).state.result = .error error) :
    ∃ cause, error = .transfer .finalizing cause := by
  have fails : (run now writeTimeout streams).state.FailsAsFinalizing :=
    machine.finish_invariant (fun later => later.state.FailsAsFinalizing)
      (fun _ _ _ fails => fails.resume _ _) _ (fun _ begun => by cases begun)
  have phase := phase_eq_of_request
    (machine.request_finish ⟨now, start now writeTimeout, streams, false⟩)
  exact fails error (phase.trans (congrArg Phase.done failed))

end Finishing

namespace Delivery

theorem keepsTo_outward : machine.KeepsTo .outward :=
  fun _ _ => side_of_request

/-- A delivery at some stage of sending. -/
def sendingAt (now : Instant) (part : Sending) : Delivery :=
  settle now (.sending part)

/-- A delivery at some stage of finishing. -/
def finishingAt (counts : SendCounts) (now : Instant) (part : Finishing) : Delivery :=
  settle now (.finishing counts part)

theorem sendingAt_eq {part : Sending} {asked : Request} (asks : part.request = some asked)
    (now : Instant) : sendingAt now part = .sending part := by
  cases phase : part.phase <;> simp_all [Sending.request, sendingAt, settle]

theorem finishingAt_eq {part : Finishing} {asked : Request} (asks : part.request = some asked)
    (counts : SendCounts) (now : Instant) :
    finishingAt counts now part = .finishing counts part := by
  cases phase : part.phase <;> simp_all [Finishing.request, finishingAt, settle]

theorem sending_partOf : Sending.machine.PartOf machine sendingAt where
  request_eq := by
    intro part asked asks now
    rw [sendingAt_eq asks]
    exact asks
  deadline_eq := by
    intro part asked asks now
    rw [sendingAt_eq asks]
    rfl
  resume_eq := by
    intro part asked asks now later answer
    rw [sendingAt_eq asks]
    rfl

theorem finishing_partOf (counts : SendCounts) :
    Finishing.machine.PartOf machine (finishingAt counts) where
  request_eq := by
    intro part asked asks now
    rw [finishingAt_eq asks]
    exact asks
  deadline_eq := by
    intro part asked asks now
    rw [finishingAt_eq asks]
    rfl
  resume_eq := by
    intro part asked asks now later answer
    rw [finishingAt_eq asks]
    rfl

/-- A delivery runs alone. -/
def run (now : Instant) (source : LineSource) (writeTimeout : Option Duration)
    (streams : Streams) : Progress Delivery :=
  machine.run now (start now source writeTimeout) streams

variable (now : Instant) (source : LineSource) (writeTimeout : Option Duration)
  (streams : Streams)

theorem run_eq_finish :
    run now source writeTimeout streams =
      machine.finish ((Sending.run now source writeTimeout streams).embed sendingAt) :=
  sending_partOf.finish_embed ⟨now, .start now source writeTimeout, streams, false⟩

theorem phase_sent :
    (Sending.run now source writeTimeout streams).state.phase =
      .done (Sending.run now source writeTimeout streams).state.result :=
  Sending.phase_eq_of_request (Sending.machine.request_finish _)

/-- A file that cannot be sent is not finished. -/
theorem run_of_error {error : Error}
    (sent : (Sending.run now source writeTimeout streams).state.result = .error error) :
    (run now source writeTimeout streams).state = .ended (.error error) := by
  have phase := phase_sent now source writeTimeout streams
  have settled : ((Sending.run now source writeTimeout streams).embed sendingAt).state =
      .ended (.error error) := by
    rw [Progress.embed, sendingAt, settle, phase, sent]
  rw [run_eq_finish, machine.finish_of_request_eq_none]
  · exact settled
  · rw [settled]
    rfl

theorem finish_finishingAt (counts : SendCounts) (begun : Progress Finishing) :
    let finishing := Finishing.machine.finish begun
    machine.finish (begun.embed (finishingAt counts)) =
      ⟨finishing.now, .ended (finishing.state.result.map (fun _ => counts)), finishing.streams,
        finishing.late⟩ := by
  intro finishing
  have phase : finishing.state.phase = .done finishing.state.result :=
    Finishing.phase_eq_of_request (Finishing.machine.request_finish begun)
  have ended : finishing.embed (finishingAt counts) =
      ⟨finishing.now, .ended (finishing.state.result.map (fun _ => counts)), finishing.streams,
        finishing.late⟩ := by
    rw [Progress.embed, finishingAt, settle, phase]
    cases finishing.state.result <;> rfl
  rw [(finishing_partOf counts).finish_embed, ended, machine.finish_of_request_eq_none rfl]

/-- A file that was sent is finished from then on, and the result is that of finishing. -/
theorem run_of_ok {counts : SendCounts}
    (sent : (Sending.run now source writeTimeout streams).state.result = .ok counts) :
    let sending := Sending.run now source writeTimeout streams
    let finishing := Finishing.run sending.now writeTimeout sending.streams
    (run now source writeTimeout streams).state =
        .ended (finishing.state.result.map (fun _ => counts)) ∧
      (run now source writeTimeout streams).now = finishing.now := by
  intro sending finishing
  have phase := phase_sent now source writeTimeout streams
  have settled : (sending.embed sendingAt).state =
      finishingAt counts sending.now (.start sending.now writeTimeout) := by
    rw [Progress.embed, sendingAt, settle, phase, sent, Sending.writeTimeout_run]
    rfl
  let begun : Progress Finishing :=
    ⟨sending.now, .start sending.now writeTimeout, sending.streams, false⟩
  -- the two stages differ in `late` alone, of which no run takes notice
  have entered : (sending.embed sendingAt).SameOn .outward (begun.embed (finishingAt counts)) :=
    ⟨rfl, settled, rfl⟩
  have same := Machine.sameOn_finish keepsTo_outward entered
  rw [← run_eq_finish, finish_finishingAt] at same
  exact ⟨same.state_eq, same.now_eq⟩

end Delivery

end LineEcho
