import LineEcho.Server.Basic

/-!
# Connections under anything that happens

Anything can happen to a server in any order: somebody connects or fails to, a session goes on or
ends, a subscriber takes an event or goes away, the server is told to stop.  What holds of a server
is shown for one occurrence at a time.

`Attends` says that the server has counted the connections that came before it was told to stop, and
that each of its handlers serves one of them.  A session notices nothing of the others, so it is on
the way to what it comes to when its connection is the only one.
-/

namespace LineEcho

namespace ServerEvent

/-- The number of the connection whose beginning an event tells of. -/
def begun? : ServerEvent → Option Nat
  | accepted number _ => some number
  | closed _ _ _ => none

/-- The number of the connection whose end an event tells of. -/
def ended? : ServerEvent → Option Nat
  | accepted _ _ => none
  | closed number _ _ => some number

end ServerEvent

namespace Server

/-- The connection that an occurrence brings, if somebody has connected. -/
def Occurrence.connection? : Occurrence → Option (SocketAddress × Streams)
  | .arrival (.ok connection) => some connection
  | _ => none

def Occurrence.isShutdown : Occurrence → Bool
  | .shutdown => true
  | _ => false

/-- The connections that come before a server is told to stop, in their order. -/
def connections (past : List Occurrence) : List (SocketAddress × Streams) :=
  (past.takeWhile (fun occurrence => !occurrence.isShutdown)).filterMap Occurrence.connection?

/-- The event that an occurrence makes a server publish. -/
def announces? (server : Server) : Occurrence → Option ServerEvent
  | .arrival (.ok (peer, _)) =>
    if server.isRunning then some (.accepted (server.accepted + 1) peer) else none
  | .farewell number =>
    (server.handlers.find? (fun handler => handler.number == number && handler.isOver)).map
      Handler.farewell
  | _ => none

/-! ### Connections -/

theorem connections_concat (past : List Occurrence) (occurrence : Occurrence) :
    connections (past ++ [occurrence]) =
      connections past ++
        if past.any Occurrence.isShutdown then [] else occurrence.connection?.toList := by
  induction past with
  | nil =>
    cases occurrence with
    | arrival arrival => cases arrival <;> rfl
    | answer number => rfl
    | farewell number => rfl
    | reception queue => rfl
    | departure queue => rfl
    | shutdown => rfl
  | cons first rest ih =>
    cases stops : first.isShutdown with
    | true => simp [connections, stops]
    | false =>
      simp only [connections, List.cons_append, List.takeWhile_cons, stops, Bool.not_false, if_true,
        List.any_cons, Bool.false_or] at ih ⊢
      cases found : first.connection? with
      | none => simpa only [List.filterMap_cons_none found] using ih
      | some connection =>
        simp only [List.filterMap_cons_some found, List.cons_append, ih]

/-- A connection keeps its place among those that come later. -/
theorem connections_getElem?_concat {past : List Occurrence} {index : Nat}
    {connection : SocketAddress × Streams} (found : (connections past)[index]? = some connection)
    (occurrence : Occurrence) :
    (connections (past ++ [occurrence]))[index]? = some connection := by
  obtain ⟨bound, -⟩ := List.getElem?_eq_some_iff.1 found
  rw [connections_concat, List.getElem?_append_left bound]
  exact found

/-! ### Events and handlers -/

/-- The numbered connection is the one of that number, counted from one. -/
def IsNumbered (past : List Occurrence) (number : Nat) (peer : SocketAddress)
    (streams : Streams) : Prop :=
  ∃ index, number = index + 1 ∧ (connections past)[index]? = some (peer, streams)

theorem IsNumbered.concat {past : List Occurrence} {number : Nat} {peer : SocketAddress}
    {streams : Streams} (isNumbered : IsNumbered past number peer streams)
    (occurrence : Occurrence) : IsNumbered (past ++ [occurrence]) number peer streams := by
  obtain ⟨index, number_eq, found⟩ := isNumbered
  exact ⟨index, number_eq, connections_getElem?_concat found occurrence⟩

theorem IsNumbered.le {past : List Occurrence} {number : Nat} {peer : SocketAddress}
    {streams : Streams} (isNumbered : IsNumbered past number peer streams) :
    number ≤ (connections past).length := by
  obtain ⟨index, rfl, found⟩ := isNumbered
  obtain ⟨bound, -⟩ := List.getElem?_eq_some_iff.1 found
  exact bound

/-- What the session of a connection comes to when it has its streams to itself. -/
def summaryAlone (settings : EchoSettings) (streams : Streams) : Summary :=
  ((Session.start settings).run 0 streams).session.summary

/-- An event that tells the truth about the connection of its number. -/
def IsTrue (settings : EchoSettings) (past : List Occurrence) : ServerEvent → Prop
  | .accepted number peer => ∃ streams, IsNumbered past number peer streams
  | .closed number peer summary =>
    ∃ streams, IsNumbered past number peer streams ∧ summary = summaryAlone settings streams

theorem IsTrue.concat {settings : EchoSettings} {past : List Occurrence} {event : ServerEvent}
    (isTrue : IsTrue settings past event) (occurrence : Occurrence) :
    IsTrue settings (past ++ [occurrence]) event := by
  cases event with
  | accepted number peer =>
    obtain ⟨streams, isNumbered⟩ := isTrue
    exact ⟨streams, isNumbered.concat occurrence⟩
  | closed number peer summary =>
    obtain ⟨streams, isNumbered, same⟩ := isTrue
    exact ⟨streams, isNumbered.concat occurrence, same⟩

theorem IsTrue.ended_le {settings : EchoSettings} {past : List Occurrence} {event : ServerEvent}
    (isTrue : IsTrue settings past event) {number : Nat} (ended : event.ended? = some number) :
    number ≤ (connections past).length := by
  cases event with
  | accepted other peer => contradiction
  | closed other peer summary =>
    cases ended
    obtain ⟨streams, isNumbered, -⟩ := isTrue
    exact isNumbered.le

/-- A handler serves the connection of its number, and its session is on the way to what it comes to
alone. -/
def Handler.Serves (settings : EchoSettings) (past : List Occurrence) (handler : Handler) : Prop :=
  ∃ streams, IsNumbered past handler.number handler.peer streams ∧
    Session.machine.finish handler.progress = Session.machine.finish (begin settings streams)

theorem Handler.Serves.concat {settings : EchoSettings} {past : List Occurrence}
    {handler : Handler} (serves : handler.Serves settings past) (occurrence : Occurrence) :
    handler.Serves settings (past ++ [occurrence]) := by
  obtain ⟨streams, isNumbered, same⟩ := serves
  exact ⟨streams, isNumbered.concat occurrence, same⟩

theorem Handler.number_advance (handler : Handler) : handler.advance.number = handler.number := by
  unfold Handler.advance
  split <;> rfl

theorem Handler.Serves.advance {settings : EchoSettings} {past : List Occurrence}
    {handler : Handler} (serves : handler.Serves settings past) :
    handler.advance.Serves settings past := by
  unfold Handler.advance
  split
  · rename_i asked asks
    obtain ⟨streams, isNumbered, same⟩ := serves
    exact ⟨streams, isNumbered, (Session.machine.finish_of_request_eq_some asks).symm.trans same⟩
  · exact serves

/-- The farewell of a handler whose session is over is true. -/
theorem Handler.Serves.isTrue_farewell {settings : EchoSettings} {past : List Occurrence}
    {handler : Handler} (serves : handler.Serves settings past) (isOver : handler.isOver = true) :
    IsTrue settings past handler.farewell := by
  obtain ⟨streams, isNumbered, same⟩ := serves
  have asksNothing : Session.machine.request handler.progress.state = none :=
    Option.isNone_iff_eq_none.1 isOver
  rw [Session.machine.finish_of_request_eq_none asksNothing] at same
  refine ⟨streams, isNumbered, ?_⟩
  rw [same]
  rfl

/-! ### One occurrence -/

section Happen

variable (server : Server) (event : ServerEvent)

@[simp]
theorem settings_publish : (publish event server).settings = server.settings := by
  unfold publish
  split <;> rfl

@[simp]
theorem phase_publish : (publish event server).phase = server.phase := by
  unfold publish
  split <;> rfl

@[simp]
theorem accepted_publish : (publish event server).accepted = server.accepted := by
  unfold publish
  split <;> rfl

@[simp]
theorem handlers_publish : (publish event server).handlers = server.handlers := by
  unfold publish
  split <;> rfl

@[simp]
theorem feed_publish : (publish event server).feed = server.feed := by
  unfold publish
  split <;> simp_all

end Happen

/-- The handlers of a server after an occurrence. -/
def handlersAfter (server : Server) : Occurrence → List Handler
  | .arrival (.ok (peer, streams)) =>
    server.handlers ++
      if server.isRunning then [⟨server.accepted + 1, peer, begin server.settings streams⟩] else []
  | .answer number =>
    server.handlers.map
      (fun handler => if handler.number = number then handler.advance else handler)
  | .farewell number =>
    if (server.announces? (.farewell number)).isSome then
      server.handlers.filter (fun other => other.number != number)
    else server.handlers
  | _ => server.handlers

/-- What an occurrence does to all of a server but its queues. -/
structure Moves (server : Server) (occurrence : Occurrence) (after : Server) : Prop where
  settings_eq : after.settings = server.settings
  feed_eq : after.feed = server.feed
  isRunning_eq : after.isRunning = (server.isRunning && !occurrence.isShutdown)
  accepted_eq : after.accepted =
    server.accepted + if server.isRunning then occurrence.connection?.toList.length else 0
  handlers_eq : after.handlers = server.handlersAfter occurrence

theorem moves_happen (server : Server) (occurrence : Occurrence) :
    Moves server occurrence (server.happen occurrence) := by
  obtain ⟨address, settings, phase, queues, pending, feed, accepted, handlers⟩ := server
  cases occurrence with
  | arrival arrival =>
    cases arrival with
    | error fault => cases phase <;> constructor <;> rfl
    | ok connection =>
      cases phase with
      | serving =>
        constructor <;>
          simp [happen, accept, isRunning, Occurrence.isShutdown, Occurrence.connection?,
            handlersAfter]
      | bound => constructor <;> simp [happen, accept, isRunning, handlersAfter]
      | stopped => constructor <;> simp [happen, accept, isRunning, handlersAfter]
  | answer number =>
    constructor <;>
      simp [happen, advance, isRunning, Occurrence.isShutdown, Occurrence.connection?,
        handlersAfter]
  | farewell number =>
    simp only [happen, Server.farewell]
    split
    · rename_i handler found
      constructor <;>
        simp [isRunning, Occurrence.isShutdown, Occurrence.connection?, handlersAfter, announces?,
          found]
    · rename_i found
      constructor <;>
        simp [isRunning, Occurrence.isShutdown, Occurrence.connection?, handlersAfter, announces?,
          found]
  | reception queue =>
    simp only [happen, receive]
    split <;> constructor <;>
      simp [isRunning, Occurrence.isShutdown, Occurrence.connection?, handlersAfter]
  | departure queue =>
    constructor <;>
      simp [happen, unsubscribe, isRunning, Occurrence.isShutdown, Occurrence.connection?,
        handlersAfter]
  | shutdown =>
    cases phase <;> constructor <;>
      simp [happen, stop, isRunning, Occurrence.isShutdown, Occurrence.connection?, handlersAfter]

/-- Events are published when a connection begins and when one has ended. -/
theorem announces?_cases {server : Server} {occurrence : Occurrence} {event : ServerEvent}
    (announced : server.announces? occurrence = some event) :
    (∃ peer streams, occurrence = .arrival (.ok (peer, streams)) ∧ server.isRunning = true ∧
        event = .accepted (server.accepted + 1) peer) ∨
      ∃ handler ∈ server.handlers, occurrence = .farewell handler.number ∧
        handler.isOver = true ∧ event = handler.farewell := by
  unfold announces? at announced
  split at announced
  · rename_i peer streams
    obtain ⟨running, same⟩ := Option.ite_none_right_eq_some.1 announced
    exact .inl ⟨peer, streams, rfl, running, (Option.some.inj same).symm⟩
  · rename_i number
    obtain ⟨handler, found, same⟩ := Option.map_eq_some_iff.1 announced
    have fits := List.find?_some found
    simp only [Bool.and_eq_true, beq_iff_eq] at fits
    exact .inr ⟨handler, List.mem_of_find?_eq_some found, by rw [fits.1], fits.2, same.symm⟩
  · contradiction

/-! ### The connections of a course -/

/-- A server after some occurrences: it serves until it is told to stop, has counted the
connections, and each handler serves one of them. -/
structure Attends (settings : EchoSettings) (past : List Occurrence) (server : Server) : Prop where
  settings_eq : server.settings = settings
  isRunning_eq : server.isRunning = !past.any Occurrence.isShutdown
  accepted_eq : server.accepted = (connections past).length
  serves : ∀ handler ∈ server.handlers, handler.Serves settings past
  numbers : (server.handlers.map Handler.number).Nodup

variable {settings : EchoSettings} {past : List Occurrence} {server : Server}

theorem Attends.isNumbered_next (attends : Attends settings past server)
    (running : server.isRunning = true) (peer : SocketAddress) (streams : Streams) :
    IsNumbered (past ++ [.arrival (.ok (peer, streams))]) (server.accepted + 1) peer streams := by
  have goesOn : past.any Occurrence.isShutdown = false := by
    rw [attends.isRunning_eq] at running
    simpa using running
  refine ⟨(connections past).length, by rw [attends.accepted_eq], ?_⟩
  rw [connections_concat, goesOn]
  simp [Occurrence.connection?]

theorem Attends.number_le (attends : Attends settings past server) {handler : Handler}
    (member : handler ∈ server.handlers) : handler.number ≤ server.accepted := by
  obtain ⟨streams, isNumbered, -⟩ := attends.serves handler member
  rw [attends.accepted_eq]
  exact isNumbered.le

theorem Attends.serves_after (attends : Attends settings past server) (occurrence : Occurrence) :
    ∀ handler ∈ server.handlersAfter occurrence,
      handler.Serves settings (past ++ [occurrence]) := by
  intro handler member
  unfold handlersAfter at member
  split at member
  · rename_i peer streams
    rcases List.mem_append.1 member with old | new
    · exact (attends.serves handler old).concat _
    · split at new
      · rename_i running
        rw [List.mem_singleton.1 new, attends.settings_eq]
        exact ⟨streams, attends.isNumbered_next running peer streams, rfl⟩
      · contradiction
  · rename_i number
    obtain ⟨before, old, rfl⟩ := List.mem_map.1 member
    have serves := (attends.serves before old).concat (Occurrence.answer number)
    split
    · exact serves.advance
    · exact serves
  · have old : handler ∈ server.handlers := by
      split at member
      · exact (List.mem_filter.1 member).1
      · exact member
    exact (attends.serves handler old).concat _
  · exact (attends.serves handler member).concat _

theorem Attends.numbers_after (attends : Attends settings past server) (occurrence : Occurrence) :
    ((server.handlersAfter occurrence).map Handler.number).Nodup := by
  unfold handlersAfter
  split
  · split
    · rw [List.map_append]
      refine List.nodup_append.2 ⟨attends.numbers, by simp, ?_⟩
      intro number old other new same
      obtain ⟨handler, member, rfl⟩ := List.mem_map.1 old
      have le := attends.number_le member
      simp only [List.map_cons, List.map_nil, List.mem_singleton] at new
      omega
    · simpa using attends.numbers
  · rename_i number
    have same : Handler.number ∘
        (fun handler => if handler.number = number then handler.advance else handler) =
        Handler.number := by
      funext handler
      simp only [Function.comp]
      split
      · exact handler.number_advance
      · rfl
    rw [List.map_map, same]
    exact attends.numbers
  · split
    · exact attends.numbers.sublist (List.filter_sublist.map _)
    · exact attends.numbers
  · exact attends.numbers

theorem Attends.happen (attends : Attends settings past server) (occurrence : Occurrence) :
    Attends settings (past ++ [occurrence]) (server.happen occurrence) := by
  have moves := moves_happen server occurrence
  constructor
  · exact moves.settings_eq.trans attends.settings_eq
  · rw [moves.isRunning_eq, attends.isRunning_eq]
    simp
  · rw [moves.accepted_eq, attends.accepted_eq, connections_concat, List.length_append,
      attends.isRunning_eq]
    cases past.any Occurrence.isShutdown <;> rfl
  · rw [moves.handlers_eq]
    exact attends.serves_after occurrence
  · rw [moves.handlers_eq]
    exact attends.numbers_after occurrence

end Server

end LineEcho
