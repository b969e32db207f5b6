import LineEcho.Client
import LineEcho.Proofs.Transfer.Alongside

/-!
# Transfers and choices

A transfer sends, finishes and drains, and whenever both sides of its connection could go on, a
choice says which of them does.  The choices do not matter: the result is read off what sending,
finishing and draining come to when each of them has its side of the connection to itself.
-/

namespace LineEcho

namespace Exchange

variable {delivered : Progress Delivery} {drained : Progress Draining} {exchange : Exchange}

theorem failure?_eq_some {error : Error} (failed : exchange.failure? = some error) :
    exchange.delivery = .ended (.error error) ∨
      ∃ fault, exchange.draining.result = some (.error fault) ∧ error = echoError fault := by
  simp only [failure?] at failed
  split at failed
  · rename_i _ _ ended
    cases failed
    cases delivery : exchange.delivery <;> simp_all [Delivery.result?]
  · cases failed
    exact .inr ⟨_, ‹_›, rfl⟩
  · contradiction

theorem failure?_eq_none (unfailed : exchange.failure? = none) :
    (∀ error, exchange.delivery ≠ .ended (.error error)) ∧
      ∀ fault, exchange.draining.result ≠ some (.error fault) := by
  refine ⟨fun error failed => ?_, fun fault failed => ?_⟩
  · simp [failure?, failed, Delivery.result?] at unfailed
  · simp only [failure?, failed] at unfailed
    split at unfailed <;> simp_all

theorem Leads.delivery_eq (leads : Leads delivered drained exchange)
    {result : Except Error SendCounts} (ended : exchange.delivery = .ended result) :
    delivered.state = .ended result := by
  have asksNothing : exchange.delivery.request = none := by rw [ended]; rfl
  exact (leads.outward.state_eq_of_done asksNothing).symm.trans ended

theorem Leads.draining_eq (leads : Leads delivered drained exchange)
    {result : Except Fault Unit} (ended : exchange.draining.result = some result) :
    exchange.draining = drained.state := by
  have asksNothing : exchange.draining.request = none := by simp [Draining.request, ended]
  exact leads.inward.state_eq_of_done asksNothing

/-- What an exchange that is over comes to is what its sides come to alone. -/
theorem Leads.outcome_cases (leads : Leads delivered drained exchange) {choice : Side}
    (isOver : exchange.turn? choice = none) :
    (∃ counts, exchange.outcome = .ok counts ∧ delivered.state = .ended (.ok counts) ∧
        drained.state.result = some (.ok ()) ∧ exchange.draining = drained.state ∧
        exchange.now = max delivered.now drained.now) ∨
      ∃ error, exchange.outcome = .error error ∧
        (delivered.state = .ended (.error error) ∨
          ∃ fault, drained.state.result = some (.error fault) ∧ error = echoError fault) := by
  cases failed : exchange.failure? with
  | some error =>
    refine .inr ⟨error, by simp [outcome, failed], ?_⟩
    rcases failure?_eq_some failed with ended | ⟨fault, ended, rfl⟩
    · exact .inl (leads.delivery_eq ended)
    · exact .inr ⟨fault, leads.draining_eq ended ▸ ended, rfl⟩
  | none =>
    -- nobody has failed and nobody gets a turn, so both sides are done
    obtain ⟨delivers, drains⟩ := failure?_eq_none failed
    have done : ∀ side, exchange.request side = none :=
      fun side => leads.asked?_eq side ▸ turn?_eq_none isOver failed side
    obtain ⟨counts, delivery⟩ : ∃ counts, exchange.delivery = .ended (.ok counts) := by
      cases delivery : exchange.delivery with
      | ended result =>
        cases result with
        | ok counts => exact ⟨counts, rfl⟩
        | error error => exact absurd delivery (delivers error)
      | _ => exact absurd (done .outward) (leads.asks (by simp [delivery, Delivery.result?]))
    have draining : exchange.draining.result = some (.ok ()) := by
      have asksNothing : exchange.draining.request = none := done .inward
      rcases result : exchange.draining.result with _ | fault | _
      · simp [Draining.request, result] at asksNothing
      · exact absurd result (drains fault)
      · rfl
    refine .inl ⟨counts, ?_, leads.delivery_eq delivery, ?_, leads.draining_eq draining, ?_⟩
    · simp [outcome, failed, delivery, Delivery.result?]
    · exact leads.draining_eq draining ▸ draining
    · exact Nat.le_antisymm leads.now_le
        (Nat.max_le.2 ⟨leads.outward.arrived (done .outward), leads.inward.arrived (done .inward)⟩)

theorem leads_start (now : Instant) (source : LineSource)
    (writeTimeout echoTimeout : Option Duration) (receipt : Receipt) (streams : Streams) :
    Leads (Delivery.run now source writeTimeout (streams.only .outward))
      (Draining.run now echoTimeout receipt (streams.only .inward))
      (start now source writeTimeout echoTimeout receipt streams) := by
  -- in company a side finds the scripts of the other one too, of which it takes no notice
  refine ⟨?_, ?_, Delivery.asks_settle now (.sending (.start now source writeTimeout)), rfl, ?_⟩
  · exact (Machine.heads_finish _).congr Delivery.keepsTo_outward
      ⟨rfl, rfl, Streams.only_only streams .outward⟩
  · exact (Machine.heads_finish _).congr Draining.keepsTo_inward
      ⟨rfl, rfl, Streams.only_only streams .inward⟩
  · refine Nat.le_trans ?_ (Nat.le_max_left _ _)
    exact Delivery.machine.le_now_finish
      ⟨now, .start now source writeTimeout, streams.only .outward, false⟩

end Exchange

namespace Client

section Alone

variable (config : ClientConfig) (content : List (Step Incoming)) (connection : Connection)

/-- The side of a connection that goes out, with the file that flows out on it. -/
def outwardAlone : Streams :=
  { connection.streams.only .outward with source := .ofSteps content }

/-- Sending, with the side that goes out to itself. -/
def sentAlone : Progress Sending :=
  Sending.run connection.since (.start room config.lineEndings) (timeoutOf config.writeTimeout)
    (outwardAlone content connection)

/-- Finishing, on what sending left and from then on. -/
def finishedAlone : Progress Finishing :=
  let sent := sentAlone config content connection
  Finishing.run sent.now (timeoutOf config.writeTimeout) sent.streams

/-- Draining, with the side that comes in to itself, from the moment at which sending begins. -/
def drainedAlone : Progress Draining :=
  Draining.run connection.since (timeoutOf config.echoTimeout) (.empty config.captureEcho)
    (connection.streams.only .inward)

/-- All the parts of a transfer succeed alone. -/
structure SucceedsAlone (counts : SendCounts) : Prop where
  sent : (sentAlone config content connection).state.result = .ok counts
  finished : (finishedAlone config content connection).state.result = .ok ()
  drained : (drainedAlone config connection).state.result = some (.ok ())

/-- One of the parts of a transfer fails alone, with an error that names its stage. -/
inductive FailsAlone : Error → Prop where
  | sending {stage : TransferStage} {cause : Fault}
      (failed : (sentAlone config content connection).state.result =
        .error (.transfer stage cause)) :
      FailsAlone (.transfer stage cause)
  | finishing {counts : SendCounts} {cause : Fault}
      (sent : (sentAlone config content connection).state.result = .ok counts)
      (failed : (finishedAlone config content connection).state.result =
        .error (.transfer .finalizing cause)) :
      FailsAlone (.transfer .finalizing cause)
  | draining {cause : Fault}
      (failed : (drainedAlone config connection).state.result = some (.error cause)) :
      FailsAlone (.transfer .finalizing cause)

/-- The report that the parts of a transfer come to alone. -/
def reportAlone (file : String) (counts : SendCounts) : TransferReport :=
  .of file config.address counts (drainedAlone config connection).state.receipt
    (microsBetween connection.since
      (max (finishedAlone config content connection).now (drainedAlone config connection).now))

/-- Delivering, with the side that goes out to itself. -/
def deliveredAlone : Progress Delivery :=
  Delivery.run connection.since (.start room config.lineEndings) (timeoutOf config.writeTimeout)
    (outwardAlone content connection)

end Alone

variable {config : ClientConfig} {content : List (Step Incoming)} {connection : Connection}

theorem leads_exchange (config : ClientConfig) (content : List (Step Incoming))
    (connection : Connection) :
    Exchange.Leads (deliveredAlone config content connection) (drainedAlone config connection)
      (exchange config content connection) :=
  Exchange.leads_start _ _ _ _ _ { connection.streams with source := .ofSteps content }

/-- A delivery succeeds alone when both of its parts do, and fails as one of them does. -/
theorem delivered_cases (config : ClientConfig) (content : List (Step Incoming))
    (connection : Connection) :
    (∃ counts, (deliveredAlone config content connection).state = .ended (.ok counts) ∧
        (deliveredAlone config content connection).now =
          (finishedAlone config content connection).now ∧
        (sentAlone config content connection).state.result = .ok counts ∧
        (finishedAlone config content connection).state.result = .ok ()) ∨
      ∃ error, (deliveredAlone config content connection).state = .ended (.error error) ∧
        FailsAlone config content connection error := by
  cases sent : (sentAlone config content connection).state.result with
  | error error =>
    obtain ⟨stage, cause, rfl⟩ := Sending.error_run sent
    exact .inr ⟨_, Delivery.run_of_error _ _ _ _ sent, .sending sent⟩
  | ok counts =>
    obtain ⟨ended, moment⟩ := Delivery.run_of_ok _ _ _ _ sent
    have ended : (deliveredAlone config content connection).state =
        .ended ((finishedAlone config content connection).state.result.map (fun _ => counts)) :=
      ended
    cases finished : (finishedAlone config content connection).state.result with
    | error error =>
      obtain ⟨cause, rfl⟩ := Finishing.error_run finished
      exact .inr ⟨_, by rw [ended, finished]; rfl, .finishing sent finished⟩
    | ok _ => exact .inl ⟨counts, by rw [ended, finished]; rfl, moment, rfl, rfl⟩

/-- **What a transfer comes to.**  It succeeds when its parts succeed alone, with their report, and
fails as one of them fails alone, whatever the choices are. -/
theorem send_cases (config : ClientConfig) (choices : Nat → Side) (file : String)
    (content : List (Step Incoming)) (connection : Connection) :
    (∃ counts, SucceedsAlone config content connection counts ∧
        (send config choices file content connection).1 =
          .ok (reportAlone config content connection file counts)) ∨
      ∃ error, FailsAlone config content connection error ∧
        (send config choices file content connection).1 = .error error := by
  have begins : (exchange config content connection).Reaches (exchange config content connection) :=
    .start
  obtain ⟨reached, choice, isOver⟩ := Exchange.reaches_finish choices begins
  have leads := (leads_exchange config content connection).of_reaches reached
  obtain ⟨counts, outcome, delivered, drained, draining, moment⟩ | ⟨error, outcome, failed⟩ :=
    leads.outcome_cases isOver
  · obtain ⟨_, ended, ends, sent, finished⟩ | ⟨error, ended, -⟩ :=
      delivered_cases config content connection
    · cases delivered.symm.trans ended
      refine .inl ⟨counts, ⟨sent, finished, drained⟩, ?_⟩
      simp only [send, outcome, report, reportAlone, draining, moment, ends]
    · cases delivered.symm.trans ended
  · have result : (send config choices file content connection).1 = .error error := by
      simp only [send, outcome]
    rcases failed with delivered | ⟨cause, drained, rfl⟩
    · obtain ⟨counts, ended, -⟩ | ⟨other, ended, fails⟩ := delivered_cases config content connection
      · cases delivered.symm.trans ended
      · cases delivered.symm.trans ended
        exact .inr ⟨_, fails, result⟩
    · exact .inr ⟨_, .draining drained, result⟩

/-- When all else succeeds, the result of draining decides. -/
theorem send_of_drained (choices : Nat → Side) (file : String) {counts : SendCounts}
    (sent : (sentAlone config content connection).state.result = .ok counts)
    (finished : (finishedAlone config content connection).state.result = .ok ())
    {result : Except Fault Unit}
    (drained : (drainedAlone config connection).state.result = some result) :
    (send config choices file content connection).1 =
      (result.mapError Exchange.echoError).map
        (fun _ => reportAlone config content connection file counts) := by
  obtain ⟨others, succeeds, sends⟩ | ⟨error, fails, sends⟩ :=
    send_cases config choices file content connection
  · cases drained.symm.trans succeeds.drained
    cases sent.symm.trans succeeds.sent
    exact sends
  · cases fails with
    | sending failed => cases sent.symm.trans failed
    | finishing _ failed => cases finished.symm.trans failed
    | draining failed =>
      cases drained.symm.trans failed
      exact sends

/-- An exchange that is over and has succeeded shows what the transfer comes to, whatever is chosen
in another one that begins like it. -/
theorem send_of_reaches {reached : Exchange} {choice : Side} {counts : SendCounts}
    (reaches : (exchange config content connection).Reaches reached)
    (isOver : reached.turn? choice = none) (succeeds : reached.outcome = .ok counts)
    (choices : Nat → Side) (file : String) :
    (send config choices file content connection).1 =
      .ok (report config file connection.since reached counts) := by
  have leads := (leads_exchange config content connection).of_reaches reaches
  obtain ⟨_, outcome, delivered, drained, draining, moment⟩ | ⟨error, outcome, -⟩ :=
    leads.outcome_cases isOver
  · cases succeeds.symm.trans outcome
    obtain ⟨_, ended, ends, sent, finished⟩ | ⟨error, ended, -⟩ :=
      delivered_cases config content connection
    · cases delivered.symm.trans ended
      rw [send_of_drained choices file sent finished drained]
      simp only [report, reportAlone, draining, moment, ends]
      rfl
    · cases delivered.symm.trans ended
  · cases succeeds.symm.trans outcome

theorem SucceedsAlone.not_failsAlone {counts : SendCounts} {error : Error}
    (succeeds : SucceedsAlone config content connection counts) :
    ¬ FailsAlone config content connection error := by
  intro fails
  cases fails with
  | sending failed => cases succeeds.sent.symm.trans failed
  | finishing _ failed => cases succeeds.finished.symm.trans failed
  | draining failed => cases succeeds.drained.symm.trans failed

/-- **Independence of the choices.**  Whatever is chosen whenever both sides of a connection could
go on, the result of a transfer is decided by its parts, each of which has its side of the
connection to itself.  The transfer succeeds exactly when the file opens and sending, finishing and
draining succeed alone, and then the report has the counters of sending alone and what draining
alone received, up to the later of the moments at which finishing and draining are done.  When it
fails, it is with the error of a part that fails alone, where draining counts as finalizing.  On the
way, as long as nothing has failed, a side is polled exactly when it asks for something, so none is
polled once it is done; and as soon as something has failed, nobody gets a turn. -/
theorem transfer_independent_of_choices (config : ClientConfig) (choices : Nat → Side)
    (file : String) (opened : OpenedFile) (connection : Connection) :
    let result := (transfer choices file opened ⟨config, .connected connection⟩).result
    match opened with
    | .error fault => result = .error (.transfer .reading fault)
    | .ok content =>
      let finished := finishedAlone config content connection
      let drained := drainedAlone config connection
      let receipt := drained.state.receipt
      (∀ report, result = .ok report ↔
        ∃ counts, SucceedsAlone config content connection counts ∧
          report =
            { file := file
              remote := config.address
              counts := counts
              echoedOctets := receipt.total
              endRecordEchoed := receipt.endsInEndRecord
              elapsedMicros := microsBetween connection.since (max finished.now drained.now)
              echo := receipt.captured }) ∧
      (∀ error, result = .error error → FailsAlone config content connection error) ∧
      ∀ reached, (exchange config content connection).Reaches reached →
        if reached.failure? = none then
          ∀ side, reached.isPolled side = (reached.request side).isSome
        else ∀ choice, reached.turn? choice = none := by
  cases opened with
  | error fault => rfl
  | ok content =>
    have result_eq : (transfer choices file (.ok content) ⟨config, .connected connection⟩).result =
        (send config choices file content connection).1 := rfl
    simp only [result_eq]
    refine ⟨fun report => ?_, fun error failed => ?_, fun reached reaches => ?_⟩
    · obtain ⟨counts, succeeds, result⟩ | ⟨error, fails, result⟩ :=
        send_cases config choices file content connection
      · rw [result]
        refine ⟨fun same => ⟨counts, succeeds, (Except.ok.inj same).symm⟩, ?_⟩
        rintro ⟨other, otherSucceeds, rfl⟩
        cases succeeds.sent.symm.trans otherSucceeds.sent
        rfl
      · rw [result]
        constructor
        · intro same
          contradiction
        · rintro ⟨counts, succeeds, -⟩
          exact absurd fails succeeds.not_failsAlone
    · obtain ⟨counts, -, result⟩ | ⟨other, fails, result⟩ :=
        send_cases config choices file content connection
      · cases result.symm.trans failed
      · cases result.symm.trans failed
        exact fails
    · have leads := (leads_exchange config content connection).of_reaches reaches
      split
      · exact leads.isPolled_eq ‹_›
      · intro choice
        simp [Exchange.turn?, Option.isSome_iff_ne_none, *]

end Client

end LineEcho
