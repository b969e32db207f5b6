import LineEcho.Proofs.Transfer.Course

/-!
# The life of a client

A client performs one transfer, which takes it from `connecting` through `streaming` and
`finalizing` to `closed`, or from one of these to `failed`.  Either way the connection is released,
with its direction shut down after all that was written on it.  Every later transfer is refused.

`Client.history` lists the states that a client goes through over some calls for a transfer.
-/

namespace LineEcho

namespace Client

/-- Shutting a direction down is logged, whatever comes of it. -/
theorem log_shutDown (now : Instant) (streams : Streams) :
    (shutDown now streams).log.toList = streams.log.toList ++ [.shutdown] := by
  let begun : Progress Attempt := ⟨now, .start .shutdown none now, streams, false⟩
  have asks : Attempt.machine.request begun.state = some .shutdown := rfl
  have asksNothing :
      Attempt.machine.request (Attempt.machine.advance begun .shutdown).state = none := rfl
  have finished : shutDown now streams = (Attempt.machine.advance begun .shutdown).streams := by
    rw [shutDown, Machine.run, Attempt.machine.finish_of_request_eq_some asks,
      Attempt.machine.finish_of_request_eq_none asksNothing]
  rw [finished, Machine.log_advance_shutdown rfl]

/-- One call for a transfer: the choices, the file that is named, and what opening it finds. -/
structure Call where
  choices : Nat → Side
  file : String
  opened : OpenedFile

def perform (call : Call) (client : Client) : Transferred :=
  client.transfer call.choices call.file call.opened

def transfers (client : Client) : List Call → List Transferred
  | [] => []
  | call :: calls => client.perform call :: transfers (client.perform call).client calls

/-- The states that a client is in from the beginning of a call up to its end. -/
def statesOf (call : Call) (client : Client) : List TransferState :=
  match client.phase, call.opened with
  | .connected connection, .ok content =>
    client.state :: ((exchange client.config content connection).course call.choices).map
      Exchange.state
  | _, _ => [client.state]

/-- The states that a client is in, from before some calls until after them. -/
def history (client : Client) : List Call → List TransferState
  | [] => [client.state]
  | call :: calls => client.statesOf call ++ history (client.perform call).client calls

/-- A client that has released its connection refuses, and stays as it is. -/
theorem transfers_of_released (config : ClientConfig) (succeeded : Bool) (calls : List Call) :
    let client : Client := ⟨config, .released succeeded⟩
    client.transfers calls = calls.map (fun _ =>
      ⟨.error (.invalidInput ("transfer already " ++ client.state.name)), client, none⟩) := by
  intro client
  induction calls with
  | nil => rfl
  | cons call calls ih => exact congrArg (List.cons _) ih

section Sent

variable (config : ClientConfig) (choices : Nat → Side) (file : String)
  (content : List (Step Incoming)) (connection : Connection)

/-- What the source of a transfer yields. -/
def yielded : LineSource.Yield :=
  (LineSource.start room config.lineEndings).yield connection.since
    { connection.streams with source := .ofSteps content }

/-- When a transfer succeeds, its exchange has shut the direction down; when it fails, the client
does. -/
theorem send_released :
    let sent := send config choices file content connection
    let last := (exchange config content connection).finish choices
    (∃ counts, last.delivery = .ended (.ok counts) ∧ sent.1.isOk = true ∧
        sent.2 = last.streams) ∨
      (sent.1.isOk = false ∧ sent.2.log.toList = last.streams.log.toList ++ [.shutdown]) := by
  intro sent last
  have begins : (exchange config content connection).Reaches (exchange config content connection) :=
    .start
  obtain ⟨reached, choice, isOver⟩ := Exchange.reaches_finish choices begins
  have leads := (leads_exchange config content connection).of_reaches reached
  cases outcome : last.outcome with
  | ok counts =>
    have sent_eq : sent =
        (.ok (report config file connection.since last counts), last.streams) := by
      simp only [sent, last, send] at outcome ⊢
      simp only [outcome]
    rw [sent_eq]
    exact .inl ⟨counts, leads.delivery_of_ok isOver outcome, rfl, rfl⟩
  | error error =>
    have sent_eq : sent = (.error error, shutDown last.now last.streams) := by
      simp only [sent, last, send] at outcome ⊢
      simp only [outcome]
    rw [sent_eq]
    exact .inr ⟨rfl, log_shutDown _ _⟩

/-- What a transfer has added to the log of its connection: the records of the file, or a beginning
of them, then a shutdown, and nothing that is written after one. -/
theorem log_send :
    let sent := send config choices file content connection
    let total := yielded config content connection
    ∃ entries, sent.2.log.toList = connection.streams.log.toList ++ entries ∧
      .shutdown ∈ entries ∧ Silenced entries ∧
      writtenOctets entries <+: total.records.flatten ∧
      (sent.1.isOk = true → total.fault? = none ∧
        writtenOctets entries = total.records.flatten) := by
  intro sent total
  let begun := exchange config content connection
  have wrote : begun.Wrote total [] := Exchange.wrote_start _ _ _ _ _ _ _
  obtain ⟨entries, log_eq, wrote⟩ :=
    wrote.of_reaches (Exchange.reaches_finish choices .start).1
  obtain ⟨counts, delivery, succeeds, streams_eq⟩ | ⟨fails, released⟩ :=
    send_released config choices file content connection
  · have delivery : (begun.finish choices).delivery = .ended (.ok counts) := delivery
    simp only [Exchange.Wrote, delivery] at wrote
    obtain ⟨shuts, silenced, unfailed, octets_eq⟩ := wrote
    exact ⟨entries, (congrArg (·.log.toList) streams_eq).trans log_eq, shuts, silenced,
      octets_eq ▸ List.prefix_refl _, fun _ => ⟨unfailed, octets_eq⟩⟩
  · have octets_eq : writtenOctets (entries ++ [.shutdown]) = writtenOctets entries := by
      rw [writtenOctets_append]
      exact List.append_nil _
    refine ⟨entries ++ [.shutdown], ?_, by simp, wrote.silenced.append (by simp),
      octets_eq ▸ wrote.isPrefix, fun succeeds => ?_⟩
    · rw [released, log_eq, List.append_assoc]
      rfl
    · rw [fails] at succeeds
      contradiction

/-- Nothing is written from the moment on at which a transfer tries to shut its direction down. -/
theorem log_send_after_shutdown {stage : Exchange}
    (member : stage ∈ (exchange config content connection).course choices)
    (shuts : stage.request .outward = some .shutdown) :
    Quiet stage.streams.log.toList
      (send config choices file content connection).2.log.toList := by
  obtain ⟨-, quiet⟩ :=
    Exchange.quiet_of_reaches (Exchange.isSent_of_shutdown shuts)
      (Exchange.reaches_of_mem_course member)
  obtain ⟨counts, -, -, streams_eq⟩ | ⟨-, released⟩ :=
    send_released config choices file content connection
  · rw [streams_eq]
    exact quiet
  · exact quiet.trans ⟨_, released, by simp⟩

end Sent

theorem goesTo_released (config : ClientConfig) (choices : Nat → Side) (file : String)
    (content : List (Step Incoming)) (connection : Connection) :
    ((exchange config content connection).finish choices).state.GoesTo
      (state ⟨config, .released (send config choices file content connection).1.isOk⟩) := by
  obtain ⟨counts, delivery, succeeds, -⟩ | ⟨fails, -⟩ :=
    send_released config choices file content connection
  · have finalizing :
        ((exchange config content connection).finish choices).state = .finalizing := by
      simp only [Exchange.state, delivery]
    rw [finalizing, succeeds]
    exact .closes
  · rw [fails]
    exact .fails (.inr (Exchange.state_cases _))

theorem isPath_statesOf (call : Call) (client : Client) :
    TransferState.IsPath (client.statesOf call) ∧
      (client.statesOf call).head? = some client.state ∧
      ∀ last ∈ (client.statesOf call).getLast?, last.GoesTo (client.perform call).client.state := by
  obtain ⟨config, phase⟩ := client
  obtain ⟨choices, file, opened⟩ := call
  cases phase with
  | released succeeded =>
    refine ⟨trivial, rfl, fun last ends => ?_⟩
    cases ends
    exact .stays _
  | connected connection =>
    cases opened with
    | error fault =>
      refine ⟨trivial, rfl, fun last ends => ?_⟩
      cases ends
      exact .fails (.inl rfl)
    | ok content =>
      obtain ⟨path, begins, ends⟩ :=
        Exchange.isPath_course choices (exchange config content connection)
      have streaming : (exchange config content connection).state = .streaming := rfl
      have states_eq : statesOf ⟨choices, file, .ok content⟩ ⟨config, .connected connection⟩ =
          .connecting ::
            ((exchange config content connection).course choices).map Exchange.state := rfl
      rw [states_eq]
      cases rest : ((exchange config content connection).course choices).map Exchange.state with
      | nil => simp [rest] at begins
      | cons first others =>
        rw [rest] at path begins ends
        cases begins
        refine ⟨⟨streaming ▸ .streams, path⟩, rfl, fun last isLast => ?_⟩
        rw [List.getLast?_cons_cons, ends] at isLast
        cases isLast
        exact goesTo_released config choices file content connection

theorem isPath_history (client : Client) (calls : List Call) :
    TransferState.IsPath (client.history calls) ∧
      (client.history calls).head? = some client.state := by
  induction calls generalizing client with
  | nil => exact ⟨trivial, rfl⟩
  | cons call calls ih =>
    obtain ⟨later, next⟩ := ih (client.perform call).client
    obtain ⟨path, begins, ends⟩ := client.isPath_statesOf call
    refine ⟨TransferState.isPath_append path later (fun last isLast following isNext => ?_), ?_⟩
    · rw [next] at isNext
      cases isNext
      exact ends last isLast
    · rw [history, List.head?_append, begins]
      rfl

/-- **The life of a client.**  Whatever file a connected client is asked to transfer, and whatever
its connection comes to, which may or may not have an interrupted write tried again, the first
transfer leaves it closed if it succeeds and failed otherwise.  The connection has been released
then.  On it, the lines of the file and the end record were written, or a beginning of them if the
transfer failed, its direction was shut down, and nothing was written after that, nor from the
moment on at which it was first tried.  All later transfers are refused and change nothing.  The
states on the way go from one to the next as they should. -/
theorem client_lifecycle (config : ClientConfig) (connection : Connection) (first : Call)
    (later : List Call) :
    let client : Client := ⟨config, .connected connection⟩
    let transferred := client.perform first
    transferred.client.state = (if transferred.result.isOk then .closed else .failed) ∧
    transferred.client.peer? = none ∧
    (∃ streams entries, transferred.released = some streams ∧
      streams.log.toList = connection.streams.log.toList ++ entries ∧
      .shutdown ∈ entries ∧ Silenced entries ∧
      match first.opened with
      | .error fault =>
        transferred.result = .error (.transfer .reading fault) ∧ writtenOctets entries = []
      | .ok content =>
        let total := yielded config content connection
        writtenOctets entries <+: total.lines.flatten ++ Line.endRecord ∧
        (transferred.result.isOk = true → total.fault? = none ∧
          writtenOctets entries = total.lines.flatten ++ Line.endRecord) ∧
        ∀ stage ∈ (exchange config content connection).course first.choices,
          stage.request .outward = some .shutdown →
          Quiet stage.streams.log.toList streams.log.toList) ∧
    transferred.client.transfers later = later.map (fun _ =>
      ⟨.error (.invalidInput ("transfer already " ++ transferred.client.state.name)),
        transferred.client, none⟩) ∧
    TransferState.IsPath (client.history (first :: later)) := by
  intro client transferred
  obtain ⟨choices, file, opened⟩ := first
  have path := (client.isPath_history (⟨choices, file, opened⟩ :: later)).1
  cases opened with
  | error fault =>
    refine ⟨rfl, rfl, ⟨_, [.shutdown], rfl, log_shutDown _ _, by simp, ?_, rfl, rfl⟩, ?_, path⟩
    · intro octets
      simp
    · exact transfers_of_released config false later
  | ok content =>
    obtain ⟨entries, log_eq, shuts, silenced, isPrefix, complete⟩ :=
      log_send config choices file content connection
    rw [LineSource.Yield.flatten_records] at isPrefix complete
    refine ⟨?_, rfl, ⟨_, entries, rfl, log_eq, shuts, silenced, isPrefix, complete, ?_⟩, ?_, path⟩
    · have result_eq : transferred.result = (send config choices file content connection).1 := rfl
      have state_eq : transferred.client.state =
          state ⟨config, .released (send config choices file content connection).1.isOk⟩ := rfl
      rw [result_eq, state_eq]
      cases (send config choices file content connection).1.isOk <;> rfl
    · exact fun stage member shuts => log_send_after_shutdown _ _ _ _ _ member shuts
    · exact transfers_of_released config _ later

end Client

end LineEcho
