import LineEcho.Proofs.Server.Connections

/-!
# What a server publishes

A server publishes one event for the beginning of each connection, in the order of the connections,
and at most one for its end, which comes later and tells what the session of the connection comes to
by itself.  `Tells` says so of the events that have been published, and `Tells.happen` shows that
any occurrence keeps it.
-/

namespace LineEcho

namespace Server

variable {settings : EchoSettings} {past : List Occurrence} {server : Server}

/-- No event tells of the beginning of a connection whose end another one has told of. -/
def NotBefore (earlier later : ServerEvent) : Prop :=
  ∀ number, earlier.ended? = some number → later.begun? ≠ some number

/-- What was published: the beginnings of all connections in their order, and ends of connections
that no handler serves any more, each once, after its beginning, and true. -/
structure Tells (settings : EchoSettings) (past : List Occurrence) (server : Server)
    (published : List ServerEvent) : Prop where
  begun_eq : published.filterMap ServerEvent.begun? = List.range' 1 (connections past).length
  ended : (published.filterMap ServerEvent.ended?).Nodup
  isTrue : ∀ event ∈ published, IsTrue settings past event
  ordered : published.Pairwise NotBefore
  unended : ∀ handler ∈ server.handlers,
    handler.number ∉ published.filterMap ServerEvent.ended?

variable {published : List ServerEvent}

theorem Tells.ended_le (tells : Tells settings past server published) {event : ServerEvent}
    (member : event ∈ published) {number : Nat} (ended : event.ended? = some number) :
    number ≤ (connections past).length :=
  (tells.isTrue event member).ended_le ended

/-- The beginning of the next connection. -/
theorem Tells.accept (tells : Tells settings past server published)
    (attends : Attends settings past server) (running : server.isRunning = true)
    (peer : SocketAddress) (streams : Streams) :
    Tells settings (past ++ [.arrival (.ok (peer, streams))])
      (server.happen (.arrival (.ok (peer, streams))))
      (published ++ [.accepted (server.accepted + 1) peer]) := by
  have moves := moves_happen server (.arrival (.ok (peer, streams)))
  have counted := (attends.happen (.arrival (.ok (peer, streams)))).accepted_eq
  have isNumbered := attends.isNumbered_next running peer streams
  have none_ended : (published ++ [ServerEvent.accepted (server.accepted + 1) peer]).filterMap
      ServerEvent.ended? = published.filterMap ServerEvent.ended? := by
    simp [ServerEvent.ended?]
  constructor
  · rw [moves.accepted_eq, if_pos running] at counted
    have counted : server.accepted + 1 = (connections (past ++ [_])).length := counted
    rw [List.filterMap_append, tells.begun_eq, ← counted, attends.accepted_eq,
      List.range'_concat]
    simp [ServerEvent.begun?, Nat.add_comm]
  · rw [none_ended]
    exact tells.ended
  · intro event member
    rcases List.mem_append.1 member with old | new
    · exact (tells.isTrue event old).concat _
    · rw [List.mem_singleton.1 new]
      exact ⟨streams, isNumbered⟩
  · refine List.pairwise_append.2 ⟨tells.ordered, List.pairwise_singleton _ _, ?_⟩
    intro earlier old later new number ended begun
    rw [List.mem_singleton.1 new] at begun
    have le := tells.ended_le old ended
    have same : server.accepted + 1 = number := Option.some.inj begun
    rw [attends.accepted_eq] at same
    omega
  · rw [none_ended, moves.handlers_eq]
    intro handler member
    simp only [handlersAfter, if_pos running] at member
    rcases List.mem_append.1 member with old | new
    · exact tells.unended handler old
    · rw [List.mem_singleton.1 new]
      intro listed
      obtain ⟨event, old, ended⟩ := List.mem_filterMap.1 listed
      have le := tells.ended_le old ended
      rw [attends.accepted_eq] at le
      exact Nat.not_succ_le_self _ le

/-- The end of a connection that a handler has served. -/
theorem Tells.farewell (tells : Tells settings past server published)
    (attends : Attends settings past server) {handler : Handler}
    (member : handler ∈ server.handlers) (isOver : handler.isOver = true)
    (announced : server.announces? (.farewell handler.number) = some handler.farewell) :
    Tells settings (past ++ [.farewell handler.number])
      (server.happen (.farewell handler.number)) (published ++ [handler.farewell]) := by
  have moves := moves_happen server (.farewell handler.number)
  have none_begun : (published ++ [handler.farewell]).filterMap ServerEvent.begun? =
      published.filterMap ServerEvent.begun? := by
    simp [Handler.farewell, ServerEvent.begun?]
  have one_ended : (published ++ [handler.farewell]).filterMap ServerEvent.ended? =
      published.filterMap ServerEvent.ended? ++ [handler.number] := by
    simp [Handler.farewell, ServerEvent.ended?]
  constructor
  · rw [none_begun, tells.begun_eq, connections_concat]
    simp [Occurrence.connection?]
  · rw [one_ended]
    refine List.nodup_append.2 ⟨tells.ended, by simp, ?_⟩
    intro number old other new same
    rw [same, List.mem_singleton.1 new] at old
    exact tells.unended handler member old
  · intro event old_or_new
    rcases List.mem_append.1 old_or_new with old | new
    · exact (tells.isTrue event old).concat _
    · rw [List.mem_singleton.1 new]
      exact ((attends.serves handler member).isTrue_farewell isOver).concat _
  · refine List.pairwise_append.2 ⟨tells.ordered, List.pairwise_singleton _ _, ?_⟩
    intro earlier old later new number ended begun
    rw [List.mem_singleton.1 new] at begun
    contradiction
  · rw [one_ended, moves.handlers_eq]
    intro other left
    simp only [handlersAfter, announced, Option.isSome_some, if_true, List.mem_filter, bne_iff_ne,
      ne_eq] at left
    simp only [List.mem_append, List.mem_singleton, not_or]
    exact ⟨tells.unended other left.1, left.2⟩

/-- An occurrence of which nothing is published ends no connection that a handler serves, and begins
none. -/
theorem Tells.silent (tells : Tells settings past server published)
    (attends : Attends settings past server) {occurrence : Occurrence}
    (silent : server.announces? occurrence = none) :
    Tells settings (past ++ [occurrence]) (server.happen occurrence) published := by
  have moves := moves_happen server occurrence
  have same : connections (past ++ [occurrence]) = connections past := by
    rw [connections_concat, List.append_right_eq_self]
    cases stopped : past.any Occurrence.isShutdown with
    | true => rfl
    | false =>
      have running : server.isRunning = true := by simp [attends.isRunning_eq, stopped]
      unfold announces? at silent
      split at silent
      · simp [running] at silent
      · rfl
      · rename_i notOk _
        cases occurrence with
        | arrival arrival =>
          cases arrival with
          | error fault => rfl
          | ok connection => exact absurd rfl (notOk _ _)
        | answer number => rfl
        | farewell number => rfl
        | reception queue => rfl
        | departure queue => rfl
        | shutdown => rfl
  constructor
  · rw [same]
    exact tells.begun_eq
  · exact tells.ended
  · exact fun event member => (tells.isTrue event member).concat _
  · exact tells.ordered
  · rw [moves.handlers_eq]
    intro handler member
    unfold handlersAfter at member
    split at member
    · rename_i peer streams
      split at member
      · rename_i running
        simp [announces?, running] at silent
      · exact tells.unended handler (by simpa using member)
    · rename_i number
      obtain ⟨before, old, rfl⟩ := List.mem_map.1 member
      have unended := tells.unended before old
      split
      · rw [before.number_advance]
        exact unended
      · exact unended
    · rw [silent] at member
      exact tells.unended handler (by simpa using member)
    · exact tells.unended handler member

theorem Tells.happen (tells : Tells settings past server published)
    (attends : Attends settings past server) (occurrence : Occurrence) :
    Tells settings (past ++ [occurrence]) (server.happen occurrence)
      (published ++ (server.announces? occurrence).toList) := by
  cases announced : server.announces? occurrence with
  | none => simpa using tells.silent attends announced
  | some event =>
    obtain ⟨peer, streams, rfl, running, rfl⟩ | ⟨handler, member, rfl, isOver, rfl⟩ :=
      announces?_cases announced
    · exact tells.accept attends running peer streams
    · exact tells.farewell attends member isOver announced

end Server

end LineEcho
