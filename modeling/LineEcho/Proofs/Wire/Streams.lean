import LineEcho.Proofs.Outcome
import LineEcho.Proofs.Transfer.Choices
import LineEcho.Proofs.Wire.Conservation

/-!
# The parties of a circuit on streams

The client of a circuit is the exchange of a transfer, and its service a session.  Where their
requests are answered by a file and by pipes, they could as well be answered from scripts that hold
the same answers.  On such streams a step of the client is a turn of its exchange, a step of the
session is an answer to the session, and neither is noticed by the other party.

So whatever circuit is reached, the exchange comes to where the client is and the session to where
the session of the circuit is, on streams that hold what the file and the pipes gave.  What has been
shown of transfers and of sessions on any streams therefore holds of the parties of a circuit.  In
particular, the report of a circuit is the one that the client gives on these streams, whatever is
chosen whenever both of its sides could go on.
-/

namespace LineEcho

/-! ### Streams that hold an answer -/

/-- What a read finds that is to deliver some octets. -/
def Incoming.ofOctets : Bytes → Incoming
  | [] => .finished
  | octet :: octets => .data (octet :: octets)

theorem Incoming.answer_ofOctets {room : Nat} {octets : Bytes} (within : octets.length ≤ room)
    (rest : List (Step Incoming)) :
    answer room (.answer (ofOctets octets) :: rest) = (.received octets, rest) := by
  cases octets with
  | nil => rfl
  | cons octet octets =>
    simp only [ofOctets, answer, List.take_of_length_le within, List.drop_of_length_le within]
    rfl

theorem Incoming.payload_ofOctets (octets : Bytes) (rest : List (Step Incoming)) :
    payload (.answer (ofOctets octets) :: rest) = octets ++ payload rest := by
  cases octets <;> rfl

/-- The answers that move octets as they are asked to, or complete what they are asked for. -/
inductive Answer.Serves : Request → Answer → Prop where
  | fetched {room : Nat} {octets : Bytes} (within : octets.length ≤ room) :
      Serves (.fetch room) (.received octets)
  | delivered {room : Nat} {octets : Bytes} (within : octets.length ≤ room) :
      Serves (.read room) (.received octets)
  | accepted {octets : Bytes} {count : Nat} (within : count ≤ octets.length) :
      Serves (.write octets) (.accepted count)
  | flushed : Serves .flush .completed
  | shut : Serves .shutdown .completed

namespace Streams

/-- Nobody has waited on any of the scripts. -/
structure Unstarted (streams : Streams) : Prop where
  source : streams.source.due = none
  incoming : streams.incoming.due = none
  outgoing : streams.outgoing.due = none
  flushes : streams.flushes.due = none
  shutdowns : streams.shutdowns.due = none

/-- The streams that give an answer to a request and then go on as they would have. -/
def giving (asked : Request) (answer : Answer) (rest : Streams) : Streams :=
  match asked, answer with
  | .fetch _, .received octets =>
    { rest with source := .ofSteps (.answer (.ofOctets octets) :: rest.source.steps) }
  | .read _, .received octets =>
    { rest with incoming := .ofSteps (.answer (.ofOctets octets) :: rest.incoming.steps) }
  | .write _, .accepted count =>
    { rest with outgoing := .ofSteps (.answer (.take count) :: rest.outgoing.steps) }
  | .flush, _ => { rest with flushes := .ofSteps (.answer .done :: rest.flushes.steps) }
  | .shutdown, _ => { rest with shutdowns := .ofSteps (.answer .done :: rest.shutdowns.steps) }
  | _, _ => rest

variable {asked : Request} {answer : Answer} {rest : Streams}

theorem Unstarted.giving (unstarted : rest.Unstarted) (serves : Answer.Serves asked answer) :
    (rest.giving asked answer).Unstarted := by
  obtain ⟨source, incoming, outgoing, flushes, shutdowns⟩ := unstarted
  cases serves with
  | fetched within => exact ⟨rfl, incoming, outgoing, flushes, shutdowns⟩
  | delivered within => exact ⟨source, rfl, outgoing, flushes, shutdowns⟩
  | accepted within => exact ⟨source, incoming, rfl, flushes, shutdowns⟩
  | flushed => exact ⟨source, incoming, outgoing, rfl, shutdowns⟩
  | shut => exact ⟨source, incoming, outgoing, flushes, rfl⟩

/-- A script that nobody has waited on is told by its steps. -/
theorem ofSteps_of_due {α : Type} {script : Script α} (due : script.due = none) :
    Script.ofSteps script.steps = script := by
  cases script
  cases due
  rfl

theorem awaitOn_answer {α : Type} (value : α) (steps : List (Step α))
    (answer : List (Step α) → Answer × List (Step α)) (update : Script α → Option Answer → Streams)
    (deadline : Option Deadline) (now : Instant) :
    awaitOn (.ofSteps (.answer value :: steps)) answer update deadline now =
      let given := answer (.answer value :: steps)
      ⟨given.1, false, now, update (.ofSteps given.2) (some given.1)⟩ :=
  rfl

/-- The answer that streams hold is given at once, whatever the deadline is. -/
theorem await_giving (unstarted : rest.Unstarted) (serves : Answer.Serves asked answer)
    (deadline : Option Deadline) (now : Instant) :
    ∃ log, (rest.giving asked answer).await deadline now asked =
      ⟨answer, false, now, { rest with log := log }⟩ := by
  cases serves with
  | fetched within =>
    refine ⟨rest.log, ?_⟩
    simp only [giving, await, awaitOn_answer, Incoming.answer_ofOctets within,
      ofSteps_of_due unstarted.source]
  | @delivered room octets within =>
    refine ⟨rest.log.push (Incoming.logged (.received octets)), ?_⟩
    simp only [giving, await, awaitOn_answer, Incoming.answer_ofOctets within,
      ofSteps_of_due unstarted.incoming, logWith]
  | @accepted octets count within =>
    refine ⟨rest.log.push (Outgoing.logged octets (.accepted count)), ?_⟩
    simp only [giving, await, awaitOn_answer, Outgoing.answer, Nat.min_eq_left within,
      ofSteps_of_due unstarted.outgoing, logWith]
  | flushed =>
    refine ⟨rest.log.push .flush, ?_⟩
    simp only [giving, await, awaitOn_answer, Signal.answer, ofSteps_of_due unstarted.flushes,
      logWith]
  | shut =>
    refine ⟨rest.log.push .shutdown, ?_⟩
    simp only [giving, await, awaitOn_answer, Signal.answer, ofSteps_of_due unstarted.shutdowns,
      logWith]

end Streams

theorem Pipe.Reads.serves {space : Nat} {answer : Answer} {pipe after : Pipe}
    (reads : pipe.Reads space answer after) : Answer.Serves (.read space) answer := by
  obtain ⟨octets, rfl, within, -⟩ := reads.received
  exact .delivered within

theorem Pipe.Writes.serves {octets : Bytes} {answer : Answer} {pipe after : Pipe}
    (writes : pipe.Writes octets answer after) : Answer.Serves (.write octets) answer := by
  cases writes with
  | part count moves offered fits => exact .accepted offered

/-- The reply to a request of a side. -/
def Exchange.reply (exchange : Exchange) (side : Side) (asked : Request) : Reply :=
  exchange.streams.await (exchange.deadline side) exchange.now asked

namespace Circuit

/-! ### Steps of the client -/

/-- The client of a circuit as an exchange, on streams that stand in the place of the file and the
pipes. -/
def exchange (streams : Streams) (circuit : Circuit) : Exchange :=
  ⟨0, circuit.delivery, circuit.draining, circuit.draining.isFinished, streams⟩

/-- What the file and the pipes give for a request of the client, and the circuit with what is left
of them. -/
inductive Gives (circuit : Circuit) : Request → Answer → Circuit → Prop where
  | fetch {space : Nat} (count : Nat) (moves : 0 < count) (asked : count ≤ space)
      (there : count ≤ circuit.unread.length) :
      Gives circuit (.fetch space) (.received (circuit.unread.take count))
        { circuit with unread := circuit.unread.drop count }
  | fetchEnd {space : Nat} (nothing : circuit.unread = []) :
      Gives circuit (.fetch space) (.received []) circuit
  | write {octets : Bytes} {answer : Answer} {forth : Pipe}
      (writes : circuit.forth.Writes octets answer forth) :
      Gives circuit (.write octets) answer { circuit with forth := forth }
  | flush : Gives circuit .flush .completed circuit
  | shutdown : Gives circuit .shutdown .completed { circuit with forth := circuit.forth.shut }
  | read {space : Nat} {answer : Answer} {back : Pipe}
      (reads : circuit.back.Reads space answer back) :
      Gives circuit (.read space) answer { circuit with back := back }

/-- What the pipes give for a request of the session, and the circuit with what is left of them. -/
inductive GivesEcho (circuit : Circuit) : Request → Answer → Circuit → Prop where
  | read {space : Nat} {answer : Answer} {forth : Pipe}
      (reads : circuit.forth.Reads space answer forth) :
      GivesEcho circuit (.read space) answer { circuit with forth := forth }
  | write {octets : Bytes} {answer : Answer} {back : Pipe}
      (writes : circuit.back.Writes octets answer back) :
      GivesEcho circuit (.write octets) answer { circuit with back := back }
  | shutdown : GivesEcho circuit .shutdown .completed { circuit with back := circuit.back.shut }

/-- The circuit once a side of the client has been answered. -/
def tell (side : Side) (answer : Answer) (circuit : Circuit) : Circuit :=
  match side with
  | .outward => circuit.deliver answer
  | .inward => circuit.drain answer

/-- A step of the client: one of its sides is given what it asks for. -/
inductive ClientStep (circuit : Circuit) : Circuit → Prop where
  | answer {side : Side} {asked : Request} {answer : Answer} {given : Circuit}
      (asks : (circuit.exchange default).request side = some asked)
      (gives : circuit.Gives asked answer given) : ClientStep circuit (given.tell side answer)

/-- A step of the session, which is given what it asks for. -/
inductive SessionStep (circuit : Circuit) : Circuit → Prop where
  | answer {asked : Request} {answer : Answer} {given : Circuit}
      (asks : circuit.session.request = some asked)
      (gives : circuit.GivesEcho asked answer given) : SessionStep circuit (given.echo answer)

variable {setup : Setup} {circuit next given : Circuit} {side : Side} {asked : Request}
  {answer : Answer} {streams rest : Streams}

theorem Step.client_or_session (step : circuit.Step next) :
    circuit.ClientStep next ∨ circuit.SessionStep next := by
  have delivers {asked : Request} {answer : Answer} {given : Circuit}
      (asks : circuit.delivery.request = some asked) (gives : circuit.Gives asked answer given) :
      circuit.ClientStep (given.deliver answer) :=
    @ClientStep.answer _ .outward _ _ _ asks gives
  have drains {asked : Request} {answer : Answer} {given : Circuit}
      (asks : circuit.draining.request = some asked) (gives : circuit.Gives asked answer given) :
      circuit.ClientStep (given.drain answer) :=
    @ClientStep.answer _ .inward _ _ _ asks gives
  cases step with
  | fetch count asks moves asked there =>
    exact .inl (delivers asks (.fetch count moves asked there))
  | fetchEnd asks nothing => exact .inl (delivers asks (.fetchEnd nothing))
  | write asks writes => exact .inl (delivers asks (.write writes))
  | flush asks => exact .inl (delivers asks .flush)
  | shutForth asks => exact .inl (delivers asks .shutdown)
  | drain asks reads => exact .inl (drains asks (.read reads))
  | echoRead asks reads => exact .inr (.answer asks (.read reads))
  | echoWrite asks writes => exact .inr (.answer asks (.write writes))
  | shutBack asks => exact .inr (.answer asks .shutdown)

theorem ClientStep.step (client : circuit.ClientStep next) : circuit.Step next := by
  cases client with
  | @answer side asked answer given asks gives =>
    -- the request tells the side
    have about : asked.side = side := Exchange.side_of_request asks
    subst about
    cases gives with
    | fetch count moves asked there => exact .fetch count asks moves asked there
    | fetchEnd nothing => exact .fetchEnd asks nothing
    | write writes => exact .write asks writes
    | flush => exact .flush asks
    | shutdown => exact .shutForth asks
    | read reads => exact .drain asks reads

theorem SessionStep.step (session : circuit.SessionStep next) : circuit.Step next := by
  cases session with
  | answer asks gives =>
    cases gives with
    | read reads => exact .echoRead asks reads
    | write writes => exact .echoWrite asks writes
    | shutdown => exact .shutBack asks

/-- The steps of a circuit are those of its client and those of its session. -/
theorem step_iff : circuit.Step next ↔ circuit.ClientStep next ∨ circuit.SessionStep next :=
  ⟨Step.client_or_session, fun step => step.elim ClientStep.step SessionStep.step⟩

theorem Gives.serves (gives : circuit.Gives asked answer given) : Answer.Serves asked answer := by
  cases gives with
  | fetch count moves asked there =>
    exact .fetched (Nat.le_trans (List.length_take_le _ _) asked)
  | fetchEnd nothing => exact .fetched (Nat.zero_le _)
  | write writes => exact writes.serves
  | flush => exact .flushed
  | shutdown => exact .shut
  | read reads => exact reads.serves

theorem GivesEcho.serves (gives : circuit.GivesEcho asked answer given) :
    Answer.Serves asked answer := by
  cases gives with
  | read reads => exact reads.serves
  | write writes => exact writes.serves
  | shutdown => exact .shut

/-- Streams hold before others what the client has been given. -/
structure GaveClient (setup : Setup) (streams rest : Streams) (circuit : Circuit) : Prop where
  fetched : ∃ fetched, fetched ++ circuit.unread = setup.content ∧
    Incoming.payload streams.source.steps = fetched ++ Incoming.payload rest.source.steps
  received : Incoming.payload streams.incoming.steps =
    circuit.back.passed ++ Incoming.payload rest.incoming.steps

/-- Streams hold before others what the session has been given. -/
def GaveSession (streams rest : Streams) (circuit : Circuit) : Prop :=
  Incoming.payload streams.incoming.steps =
    circuit.forth.passed ++ Incoming.payload rest.incoming.steps

/-- What is given goes over from the streams that are to come to those that were. -/
theorem GaveClient.give (gave : circuit.GaveClient setup streams (rest.giving asked answer))
    (gives : circuit.Gives asked answer given) : given.GaveClient setup streams rest := by
  obtain ⟨⟨fetched, content_eq, holds⟩, received⟩ := gave
  cases gives with
  | fetch count moves asked there =>
    refine ⟨⟨fetched ++ circuit.unread.take count, ?_, ?_⟩, received⟩
    · rw [List.append_assoc, List.take_append_drop, content_eq]
    · rw [holds, List.append_assoc]
      exact congrArg (fetched ++ ·) (Incoming.payload_ofOctets _ _)
  | fetchEnd nothing => exact ⟨⟨fetched, content_eq, holds⟩, received⟩
  | write writes =>
    cases writes with
    | part count moves offered fits => exact ⟨⟨fetched, content_eq, holds⟩, received⟩
  | flush => exact ⟨⟨fetched, content_eq, holds⟩, received⟩
  | shutdown => exact ⟨⟨fetched, content_eq, holds⟩, received⟩
  | read reads =>
    obtain ⟨octets, rfl, -, passed, -⟩ := reads.received
    refine ⟨⟨fetched, content_eq, holds⟩, ?_⟩
    rw [received, passed, List.append_assoc]
    exact congrArg (circuit.back.passed ++ ·) (Incoming.payload_ofOctets _ _)

theorem GaveClient.tell (gave : circuit.GaveClient setup streams rest) (side : Side)
    (answer : Answer) : (circuit.tell side answer).GaveClient setup streams rest := by
  cases side with
  | outward => exact ⟨gave.fetched, gave.received⟩
  | inward => exact ⟨gave.fetched, gave.received⟩

theorem GaveSession.give (gave : circuit.GaveSession streams (rest.giving asked answer))
    (gives : circuit.GivesEcho asked answer given) : given.GaveSession streams rest := by
  cases gives with
  | read reads =>
    obtain ⟨octets, rfl, -, passed, -⟩ := reads.received
    rw [GaveSession] at gave ⊢
    rw [gave, passed, List.append_assoc]
    exact congrArg (circuit.forth.passed ++ ·) (Incoming.payload_ofOctets _ _)
  | write writes =>
    cases writes with
    | part count moves offered fits => exact gave
  | shutdown => exact gave

/-- The client notices nothing of a step of the session. -/
theorem SessionStep.unnoticed (session : circuit.SessionStep next) (streams : Streams) :
    next.exchange streams = circuit.exchange streams ∧ next.unread = circuit.unread ∧
      next.back.passed = circuit.back.passed := by
  cases session with
  | answer asks gives =>
    cases gives with
    | read reads => exact ⟨rfl, rfl, rfl⟩
    | write writes =>
      cases writes with
      | part count moves offered fits => exact ⟨rfl, rfl, rfl⟩
    | shutdown => exact ⟨rfl, rfl, rfl⟩

/-- The session notices nothing of a step of the client. -/
theorem ClientStep.unnoticed (client : circuit.ClientStep next) :
    next.session = circuit.session ∧ next.forth.passed = circuit.forth.passed := by
  cases client with
  | @answer side asked answer given asks gives =>
    have same : given.session = circuit.session ∧ given.forth.passed = circuit.forth.passed := by
      cases gives with
      | write writes =>
        cases writes with
        | part count moves offered fits => exact ⟨rfl, rfl⟩
      | _ => exact ⟨rfl, rfl⟩
    cases side with
    | outward => exact same
    | inward => exact same

/-! ### Turns of the exchange -/

/-- Nothing fails in a circuit. -/
theorem Sound.failure?_eq_none (sound : circuit.Sound setup) (streams : Streams) :
    (circuit.exchange streams).failure? = none := by
  cases failed : (circuit.exchange streams).failure? with
  | none => rfl
  | some error =>
    obtain ended | ⟨fault, ended, -⟩ := Exchange.failure?_eq_some failed
    · have result := congrArg Delivery.result? ended
      have := (sound.delivers.sent result).1
      contradiction
    · have := (sound.drains.ended _ ended).1
      contradiction

/-- A side that asks for something is polled. -/
theorem asked?_eq_request (circuit : Circuit) (streams : Streams) (side : Side) :
    (circuit.exchange streams).asked? side = (circuit.exchange streams).request side := by
  rw [Exchange.asked?]
  split
  · rfl
  · rename_i unpolled
    symm
    cases side with
    | outward =>
      obtain ⟨result, ended⟩ := Option.ne_none_iff_exists'.1
        (by simpa [Exchange.isPolled, exchange] using unpolled)
      exact Delivery.request_of_result? ended
    | inward =>
      have finished : circuit.draining.isFinished = true := by
        simpa [Exchange.isPolled, exchange] using unpolled
      exact Draining.request_of_isFinished finished

theorem Gives.exchange_tell (gives : circuit.Gives asked answer given) (side : Side)
    (other : Answer) (streams : Streams) :
    (given.tell side other).exchange streams = (circuit.tell side other).exchange streams := by
  cases side <;> cases gives <;> rfl

/-- An answer that comes at once takes the exchange where it takes the circuit. -/
theorem exchange_answer {late : Bool} {last : Streams}
    (replies : (circuit.exchange streams).reply side asked = ⟨answer, late, 0, last⟩) :
    (circuit.exchange streams).answer asked side = (circuit.tell side answer).exchange last := by
  cases side with
  | outward =>
    have replies : streams.await circuit.delivery.deadline 0 asked = ⟨answer, late, 0, last⟩ :=
      replies
    simp only [Exchange.answer, Machine.advance, Delivery.machine, exchange, replies]
    rfl
  | inward =>
    have replies : streams.await circuit.draining.deadline 0 asked = ⟨answer, late, 0, last⟩ :=
      replies
    simp only [Exchange.answer, Machine.advance, Draining.machine, exchange, replies]
    rfl

/-- On streams that hold the answer which the file and the pipes give, a step of the client is a
turn of the exchange. -/
theorem ClientStep.turn (client : circuit.ClientStep next) (sound : circuit.Sound setup) :
    ∃ side asked answer given, circuit.Gives asked answer given ∧ next = given.tell side answer ∧
      ∀ rest : Streams, rest.Unstarted →
        let exchange := circuit.exchange (rest.giving asked answer)
        exchange.turn? side = some (.answer side asked) ∧
          ∃ log, exchange.reply side asked = ⟨answer, false, 0, { rest with log := log }⟩ ∧
            exchange.take (.answer side asked) = next.exchange { rest with log := log } := by
  cases client with
  | @answer side asked answer given asks gives =>
    refine ⟨side, asked, answer, given, gives, rfl, fun rest unstarted => ?_⟩
    intro exchange
    have asks : exchange.request side = some asked := by
      cases side <;> exact asks
    obtain ⟨log, replies⟩ := Streams.await_giving unstarted gives.serves (exchange.deadline side) 0
    have replies : exchange.reply side asked = ⟨answer, false, 0, { rest with log := log }⟩ :=
      replies
    refine ⟨?_, log, replies, ?_⟩
    · have polled : exchange.poll? side = some asked :=
        Exchange.poll?_eq_some.2
          ⟨(circuit.asked?_eq_request _ side).trans asks, congrArg Reply.now replies⟩
      have unfailed : exchange.failure? = none := sound.failure?_eq_none _
      simp only [Exchange.turn?, unfailed, polled, Option.isSome_none, Bool.false_eq_true, if_false]
    · exact (exchange_answer replies).trans (gives.exchange_tell side answer _).symm

theorem unstarted_default : (default : Streams).Unstarted :=
  ⟨rfl, rfl, rfl, rfl, rfl⟩

/-- **Steps and turns.**  A circuit makes a step of its client just where the exchange has a turn,
on some streams whose reply is what the file and the pipes give, and both come to the same. -/
theorem clientStep_iff (sound : circuit.Sound setup) :
    circuit.ClientStep next ↔ ∃ streams side asked given,
      let exchange := circuit.exchange streams
      let reply := exchange.reply side asked
      exchange.turn? side = some (.answer side asked) ∧ circuit.Gives asked reply.answer given ∧
        next = given.tell side reply.answer ∧
        exchange.take (.answer side asked) = next.exchange reply.streams := by
  constructor
  · intro client
    obtain ⟨side, asked, answer, given, gives, next_eq, turns⟩ := client.turn sound
    obtain ⟨turn, log, replies, taken⟩ := turns default unstarted_default
    refine ⟨Streams.giving asked answer default, side, asked, given, ?_⟩
    intro exchange reply
    have reply_eq : reply = _ := replies
    rw [reply_eq]
    exact ⟨turn, gives, next_eq, taken⟩
  · rintro ⟨streams, side, asked, given, turn, gives, rfl, -⟩
    obtain ⟨-, ⟨_, _, same, polled⟩ | ⟨_, other, -⟩⟩ := Exchange.turn?_eq_some turn
    · cases same
      have asks := Exchange.request_of_asked? (Exchange.poll?_eq_some.1 polled).1
      refine .answer ?_ gives
      cases side <;> exact asks
    · cases other

/-! ### Runs -/

theorem giving_withLog (serves : Answer.Serves asked answer) (log : Array LogEntry) :
    { rest.giving asked answer with log := log } =
      ({ rest with log := log } : Streams).giving asked answer := by
  cases serves <;> rfl

theorem unstarted_withLog (unstarted : rest.Unstarted) (log : Array LogEntry) :
    ({ rest with log := log } : Streams).Unstarted :=
  ⟨unstarted.source, unstarted.incoming, unstarted.outgoing, unstarted.flushes, unstarted.shutdowns⟩

/-- **The client on streams.**  Whatever circuit is reached, and whatever is to come on the streams
from then on, there are streams, with what the client was given before that, on which the exchange
of the transfer comes by turns to where the client is. -/
theorem exchange_reaches (reaches : (start setup).Reaches circuit) (unstarted : rest.Unstarted) :
    ∃ streams log, streams.Unstarted ∧ circuit.GaveClient setup streams rest ∧
      ((start setup).exchange streams).Reaches (circuit.exchange { rest with log := log }) := by
  induction reaches generalizing rest with
  | refl => exact ⟨rest, rest.log, unstarted, ⟨⟨[], rfl, rfl⟩, rfl⟩, .start⟩
  | @step middle last reaches next ih =>
    obtain client | session := next.client_or_session
    · obtain ⟨side, asked, answer, given, gives, rfl, turns⟩ :=
        client.turn (sound_of_reaches reaches)
      obtain ⟨streams, log, begun, gave, reached⟩ := ih (unstarted.giving gives.serves)
      rw [giving_withLog gives.serves] at reached
      obtain ⟨turn, log, -, taken⟩ := turns _ (unstarted_withLog unstarted log)
      exact ⟨streams, log, begun, (gave.give gives).tell side answer,
        taken ▸ reached.turn side turn⟩
    · obtain ⟨streams, log, begun, ⟨fetched, received⟩, reached⟩ := ih unstarted
      obtain ⟨exchange_eq, unread_eq, passed_eq⟩ :=
        session.unnoticed { rest with log := log }
      exact ⟨streams, log, begun, ⟨unread_eq ▸ fetched, passed_eq ▸ received⟩,
        exchange_eq ▸ reached⟩

/-- **The session on streams.**  Whatever circuit is reached, and whatever is to come on the streams
from then on, there are streams, with what the session was given before that, on which the session
comes to where the session of the circuit is. -/
theorem session_reaches (reaches : (start setup).Reaches circuit) (unstarted : rest.Unstarted) :
    ∃ streams log, streams.Unstarted ∧ circuit.GaveSession streams rest ∧
      Session.machine.finish ⟨0, (start setup).session, streams, false⟩ =
        Session.machine.finish ⟨0, circuit.session, { rest with log := log }, false⟩ := by
  induction reaches generalizing rest with
  | refl => exact ⟨rest, rest.log, unstarted, rfl, rfl⟩
  | @step middle last reaches next ih =>
    obtain client | session := next.client_or_session
    · obtain ⟨streams, log, begun, gave, same⟩ := ih unstarted
      obtain ⟨session_eq, passed_eq⟩ := client.unnoticed
      refine ⟨streams, log, begun, ?_, session_eq ▸ same⟩
      rw [GaveSession, passed_eq]
      exact gave
    · cases session with
      | @answer asked answer given asks gives =>
        obtain ⟨streams, log, begun, gave, same⟩ := ih (unstarted.giving gives.serves)
        have asks : Session.machine.request middle.session = some asked := asks
        obtain ⟨later, replies⟩ := Streams.await_giving (unstarted_withLog unstarted log)
          gives.serves (Session.machine.deadline middle.session) 0
        have gave : given.GaveSession streams rest := gave.give gives
        refine ⟨streams, later, begun, gave, same.trans ?_⟩
        rw [giving_withLog gives.serves]
        refine (Session.machine.finish_of_request_eq_some asks).trans ?_
        rw [Machine.advance, replies]
        cases gives <;> rfl

/-! ### Outcomes -/

/-- A circuit has an outcome when the exchange of its client is over, and it is that of the
exchange. -/
theorem outcome?_eq_some_iff (streams : Streams)
    {outcome : Except Error (SendCounts × Receipt)} :
    let exchange := circuit.exchange streams
    circuit.outcome? = some outcome ↔
      (exchange.failure?.isSome = true ∨ ∀ side, exchange.isPolled side = false) ∧
        outcome = exchange.outcome.map (fun counts => (counts, exchange.draining.receipt)) := by
  intro exchange
  have done_iff : (∀ side, exchange.isPolled side = false) ↔
      circuit.delivery.result?.isSome = true ∧ circuit.draining.isFinished = true := by
    constructor
    · intro unpolled
      exact ⟨by simpa [exchange, Exchange.isPolled, Circuit.exchange] using unpolled .outward,
        by simpa [exchange, Exchange.isPolled, Circuit.exchange] using unpolled .inward⟩
    · intro done side
      cases side <;> simp [exchange, Exchange.isPolled, Circuit.exchange, done]
  rw [done_iff]
  simp only [outcome?, exchange, Circuit.exchange, Exchange.failure?, Exchange.outcome,
    Draining.isFinished]
  have told {result : Except Error (SendCounts × Receipt)} :
      some result = some outcome ↔ outcome = result :=
    ⟨fun same => (Option.some.inj same).symm, fun same => congrArg some same.symm⟩
  cases circuit.delivery.result? with
  | none => rcases circuit.draining.result with _ | fault | _ <;> simp [told, Except.map]
  | some result =>
    cases result with
    | error error => simp [told, Except.map]
    | ok counts => rcases circuit.draining.result with _ | fault | _ <;> simp [told, Except.map]

/-- Whoever is not polled gets no turn. -/
theorem turn?_of_unpolled {exchange : Exchange}
    (unpolled : ∀ side, exchange.isPolled side = false) (choice : Side) :
    exchange.turn? choice = none := by
  have asksNothing (side : Side) : exchange.asked? side = none := by
    simp [Exchange.asked?, unpolled side]
  simp [Exchange.turn?, Exchange.poll?, Exchange.wake?, Exchange.wakeOf?, asksNothing, Side.all]

/-- The settings of the client of a circuit, which puts no limits on anything. -/
def Setup.client (setup : Setup) : ClientConfig :=
  { (default : ClientConfig) with lineEndings := setup.endings, captureEcho := setup.capture }

/-- **The report of a circuit.**  What the transfer of a circuit returns is what a client returns
that sends a file over a connection, with what the file and the pipes gave on their streams,
whatever is chosen whenever both sides of it could go on. -/
theorem report?_eq_send {file : String} {result : Except Error TransferReport}
    (reaches : (start setup).Reaches circuit) (room_eq : setup.capacity = Client.room)
    (returned : circuit.report? file setup.client.address 0 = some result) (peer : SocketAddress) :
    ∃ content streams,
      Incoming.payload content ++ circuit.unread = setup.content ∧
      Incoming.payload streams.incoming.steps = circuit.back.passed ∧
      ∀ choices,
        (Client.send setup.client choices file content ⟨peer, 0, streams⟩).1 = result := by
  obtain ⟨streams, log, unstarted, ⟨⟨fetched, content_eq, holds⟩, received⟩, reached⟩ :=
    exchange_reaches reaches unstarted_default
  refine ⟨streams.source.steps, streams, ?_, ?_, fun choices => ?_⟩
  · rw [holds, ← content_eq]
    exact congrArg (· ++ circuit.unread) (List.append_nil fetched)
  · exact received.trans (List.append_nil _)
  have begins : Client.exchange setup.client streams.source.steps ⟨peer, 0, streams⟩ =
      (start setup).exchange streams := by
    have streams_eq : { streams with source := .ofSteps streams.source.steps } = streams := by
      rw [Streams.ofSteps_of_due unstarted.source]
    simp only [Client.exchange, streams_eq, Exchange.start, start, exchange, room_eq]
    rfl
  rw [← begins] at reached
  -- nothing fails in a circuit, so its exchange is over because neither side is polled
  obtain ⟨outcome, isOver, rfl⟩ := Option.map_eq_some_iff.1 returned
  have sound := sound_of_reaches reaches
  obtain ⟨succeeded, -, -⟩ := sound.outcome_eq isOver
  obtain ⟨failed | unpolled, outcome_eq⟩ :=
    (outcome?_eq_some_iff { (default : Streams) with log := log }).1 isOver
  · rw [sound.failure?_eq_none] at failed
    contradiction
  · obtain ⟨counts, succeeds, -⟩ := of_map_eq_ok (outcome_eq.symm.trans succeeded)
    rw [Client.send_of_reaches reached (turn?_of_unpolled unpolled .outward) succeeds, outcome_eq,
      succeeds]
    simp only [Except.map, Client.report, exchange, Client.microsBetween, Nat.sub_self,
      Nat.zero_mul]

end Circuit

end LineEcho
