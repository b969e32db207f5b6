import LineEcho.Proofs.Server.Publishing

/-!
# What a subscriber is told

The course of a server keeps the events that were published and those that the subscriber took.
Some of the published events are missing from the latter, because the queue of the subscriber is
bounded, but it drops an event only when it is full or nobody will take it any more.  The main
statement says what the subscriber is told, whatever happens and in whatever order.
-/

namespace LineEcho

namespace Server

/-- The event that the subscriber of a queue takes in an occurrence. -/
def takes? (queue : Nat) (server : Server) : Occurrence → Option ServerEvent
  | .reception other =>
    if other = queue then
      match (server.receive queue).1 with
      | .event event => some event
      | _ => none
    else none
  | _ => none

/-- The events that wait in a queue. -/
def backlog (queue : Nat) (server : Server) : List ServerEvent :=
  (server.queues[queue]?.map (·.waiting)).getD []

/-- A server with the events that it has published and those that the subscriber has taken. -/
structure Course where
  server : Server
  published : List ServerEvent
  received : List ServerEvent

namespace Course

def start (server : Server) : Course :=
  ⟨server, [], []⟩

def next (queue : Nat) (course : Course) (occurrence : Occurrence) : Course where
  server := course.server.happen occurrence
  published := course.published ++ (course.server.announces? occurrence).toList
  received := course.received ++ (course.server.takes? queue occurrence).toList

/-- The course of a server through some occurrences. -/
def after (queue : Nat) (server : Server) (occurrences : List Occurrence) : Course :=
  occurrences.foldl (next queue) (start server)

theorem server_after (queue : Nat) (server : Server) (occurrences : List Occurrence) :
    (after queue server occurrences).server = occurrences.foldl happen server := by
  have general : ∀ course : Course,
      (occurrences.foldl (next queue) course).server = occurrences.foldl happen course.server := by
    induction occurrences with
    | nil => exact fun _ => rfl
    | cons occurrence rest ih => exact fun course => ih _
  exact general _

end Course

/-! ### The queue of the subscriber -/

def Occurrence.isDeparture (queue : Nat) : Occurrence → Bool
  | .departure other => other == queue
  | _ => false

/-- What an occurrence makes of the queue that is told of connections. -/
def queueAfter (queue : Nat) (server : Server) (events : EventQueue) (occurrence : Occurrence) :
    EventQueue :=
  match server.announces? occurrence with
  | some event => events.offer event
  | none =>
    if occurrence.isDeparture queue then events.abandon
    else if (server.takes? queue occurrence).isSome then
      { events with waiting := events.waiting.tail }
    else events

variable {settings : EchoSettings} {past : List Occurrence} {server : Server}
  {published : List ServerEvent} {queue : Nat} {events : EventQueue}

theorem queues_publish (feed_eq : server.feed = some queue)
    (found : server.queues[queue]? = some events) (event : ServerEvent) :
    (publish event server).queues[queue]? = some (events.offer event) := by
  simp [publish, feed_eq, found]

theorem queues_happen (feed_eq : server.feed = some queue)
    (found : server.queues[queue]? = some events) (occurrence : Occurrence) :
    (server.happen occurrence).queues[queue]? =
      some (queueAfter queue server events occurrence) := by
  cases occurrence with
  | arrival arrival =>
    cases arrival with
    | error fault =>
      have same : server.happen (.arrival (.error fault)) = server := by
        simp [Server.happen, accept]
      rw [same, found]
      rfl
    | ok connection =>
      by_cases running : server.isRunning = true
      · have serving : server.phase = .serving := by simpa [isRunning] using running
        simp only [Server.happen, accept, serving, queueAfter, announces?, running, if_true]
        refine queues_publish ?_ ?_ _
        · exact feed_eq
        · exact found
      · have same : server.happen (.arrival (.ok connection)) = server := by
          simp only [isRunning, beq_iff_eq] at running
          simp only [Server.happen, accept]
          split <;> simp_all
        rw [same, found, queueAfter, announces?, if_neg running]
        rfl
  | answer number => exact found
  | farewell number =>
    simp only [Server.happen, Server.farewell, queueAfter, announces?]
    split
    · rename_i handler isFound
      rw [isFound]
      refine queues_publish ?_ ?_ _
      · exact feed_eq
      · exact found
    · rename_i nobody
      rw [nobody]
      exact found
  | reception other =>
    simp only [Server.happen, queueAfter, announces?, takes?, Occurrence.isDeparture]
    by_cases own : other = queue
    · subst own
      simp only [receive, found, Option.bind_some, EventQueue.take?]
      cases waiting : events.waiting with
      | nil => cases server.feeds other <;> simp [found]
      | cons event rest =>
        obtain ⟨bound, -⟩ := List.getElem?_eq_some_iff.1 found
        simp [List.getElem?_set_self bound]
    · simp only [own, if_false]
      simp only [receive]
      split
      · rw [List.getElem?_set_ne own]
        exact found
      · exact found
  | departure other =>
    simp only [Server.happen, unsubscribe, queueAfter, announces?, takes?, Occurrence.isDeparture,
      List.getElem?_modify]
    by_cases own : other = queue
    · subst own
      simp [found]
    · simp [own, found]
  | shutdown =>
    simp only [Server.happen, stop, queueAfter, announces?, takes?, Occurrence.isDeparture]
    split <;> exact found

/-- The subscriber takes the event that has waited longest. -/
theorem takes?_eq_some (found : server.queues[queue]? = some events) {occurrence : Occurrence}
    {event : ServerEvent} (taken : server.takes? queue occurrence = some event) :
    events.waiting = event :: events.waiting.tail ∧ occurrence.isDeparture queue = false := by
  unfold takes? at taken
  split at taken
  · refine ⟨?_, rfl⟩
    obtain ⟨rfl, taken⟩ := Option.ite_none_right_eq_some.1 taken
    simp only [receive, found, Option.bind_some, EventQueue.take?] at taken
    cases waiting : events.waiting with
    | nil => cases feeds : server.feeds ‹Nat› <;> simp [waiting, feeds] at taken
    | cons first rest =>
      simp only [waiting, Option.some.injEq] at taken
      rw [taken]
      rfl
  · contradiction

/-- The subscriber's queue never holds more than it has room for, it is abandoned when the
subscriber has gone, and what was taken from it and what waits in it are some of the events that
were published, in their order. -/
structure Holds (room : Nat) (gone : Bool) (received published : List ServerEvent)
    (events : EventQueue) : Prop where
  room_eq : events.room = room
  length_le : events.waiting.length ≤ room
  isAbandoned_eq : events.isAbandoned = gone
  sublist : (received ++ events.waiting).Sublist published

section Queue

variable {room : Nat} {gone : Bool} {received : List ServerEvent}

/-- An event that is published is added to the queue, unless that is full or abandoned. -/
theorem Holds.offer_cases (holds : Holds room gone received published events)
    (event : ServerEvent) :
    (events.offer event = { events with waiting := events.waiting ++ [event] } ∧
        events.waiting.length < room) ∨
      events.offer event = events ∧ (events.waiting.length = room ∨ gone = true) := by
  obtain ⟨rfl, length_le, rfl, -⟩ := holds
  unfold EventQueue.offer EventQueue.refuses
  cases events.isAbandoned with
  | true => exact .inr ⟨rfl, .inr rfl⟩
  | false =>
    by_cases full : events.room ≤ events.waiting.length
    · right
      simp only [full, decide_true, Bool.or_true, if_true, true_and]
      left
      omega
    · left
      simp only [full, decide_false, Bool.or_false, Bool.false_eq_true, if_false]
      constructor
      · trivial
      · omega

theorem Holds.offer (holds : Holds room gone received published events) (event : ServerEvent) :
    Holds room gone received (published ++ [event]) (events.offer event) := by
  rcases holds.offer_cases event with ⟨added, less⟩ | ⟨dropped, -⟩
  · rw [added]
    refine ⟨holds.room_eq, ?_, holds.isAbandoned_eq, ?_⟩
    · rw [List.length_append]
      exact less
    · rw [← List.append_assoc]
      exact holds.sublist.append (List.Sublist.refl _)
  · rw [dropped]
    exact ⟨holds.room_eq, holds.length_le, holds.isAbandoned_eq,
      holds.sublist.trans (List.sublist_append_left _ _)⟩

theorem Holds.abandon (holds : Holds room gone received published events) :
    Holds room true received published events.abandon := by
  refine ⟨holds.room_eq, Nat.zero_le _, rfl, ?_⟩
  rw [EventQueue.abandon, List.append_nil]
  exact (List.sublist_append_left _ _).trans holds.sublist

theorem Holds.take (holds : Holds room gone received published events) {event : ServerEvent}
    (waiting : events.waiting = event :: events.waiting.tail) :
    Holds room gone (received ++ [event]) published
      { events with waiting := events.waiting.tail } := by
  refine ⟨holds.room_eq, ?_, holds.isAbandoned_eq, ?_⟩
  · have le := holds.length_le
    rw [List.length_tail]
    omega
  · rw [List.append_assoc, List.singleton_append, ← waiting]
    exact holds.sublist

end Queue

/-- What is kept of the subscriber's queue through a course. -/
structure Keeps (queue room : Nat) (past : List Occurrence) (course : Course)
    (events : EventQueue) : Prop where
  feed_eq : course.server.feed = some queue
  found : course.server.queues[queue]? = some events
  holds : Holds room (past.any (Occurrence.isDeparture queue)) course.received course.published
    events

variable {room : Nat} {course : Course}

theorem Keeps.next (keeps : Keeps queue room past course events) (occurrence : Occurrence) :
    Keeps queue room (past ++ [occurrence]) (course.next queue occurrence)
      (queueAfter queue course.server events occurrence) := by
  obtain ⟨feed_eq, found, holds⟩ := keeps
  refine ⟨(moves_happen course.server occurrence).feed_eq.trans feed_eq,
    queues_happen feed_eq found occurrence, ?_⟩
  have gone_eq : (past ++ [occurrence]).any (Occurrence.isDeparture queue) =
      (past.any (Occurrence.isDeparture queue) || occurrence.isDeparture queue) := by simp
  rw [gone_eq]
  simp only [Course.next, queueAfter]
  cases announced : course.server.announces? occurrence with
  | some event =>
    have others : occurrence.isDeparture queue = false ∧
        course.server.takes? queue occurrence = none := by
      obtain ⟨peer, streams, rfl, -⟩ | ⟨handler, -, rfl, -⟩ := announces?_cases announced
      · exact ⟨rfl, rfl⟩
      · exact ⟨rfl, rfl⟩
    simpa [others] using holds.offer event
  | none =>
    by_cases leaves : occurrence.isDeparture queue = true
    · have nothing : course.server.takes? queue occurrence = none := by
        cases occurrence <;> simp_all [Occurrence.isDeparture, takes?]
      simpa [leaves, nothing] using holds.abandon
    · rw [Bool.not_eq_true] at leaves
      cases taken : course.server.takes? queue occurrence with
      | some event => simpa [leaves] using holds.take (takes?_eq_some found taken).1
      | none => simpa [leaves] using holds

/-! ### All occurrences -/

/-- What is kept through the course of a server of whose connections a subscriber is told. -/
structure Kept (settings : EchoSettings) (queue room : Nat) (past : List Occurrence)
    (course : Course) : Prop where
  attends : Attends settings past course.server
  tells : Tells settings past course.server course.published
  keeps : ∃ events, Keeps queue room past course events

theorem Kept.next (kept : Kept settings queue room past course) (occurrence : Occurrence) :
    Kept settings queue room (past ++ [occurrence]) (course.next queue occurrence) := by
  obtain ⟨attends, tells, events, keeps⟩ := kept
  exact ⟨attends.happen occurrence, tells.happen attends occurrence, _, keeps.next occurrence⟩

theorem Kept.foldl (kept : Kept settings queue room past course) (occurrences : List Occurrence) :
    Kept settings queue room (past ++ occurrences)
      (occurrences.foldl (Course.next queue) course) := by
  induction occurrences generalizing past course with
  | nil => simpa using kept
  | cons occurrence rest ih =>
    rw [List.append_cons]
    exact ih (kept.next occurrence)

/-- A server that has just been started after somebody subscribed. -/
theorem kept_start {config : ServiceConfig} {address : SocketAddress} {capacity : Nat}
    {subscribed begun : Server}
    (subscribes : (listening config address).subscribe capacity = .ok (subscribed, queue))
    (starts : subscribed.start = .ok begun) :
    Kept (settingsOf config) queue (max capacity 1) [] (.start begun) := by
  cases subscribes
  cases starts
  refine ⟨⟨rfl, rfl, rfl, ?_, List.nodup_nil⟩, ⟨rfl, List.nodup_nil, ?_, List.Pairwise.nil, ?_⟩,
    .ofCapacity capacity, rfl, rfl, rfl, Nat.zero_le _, rfl, List.Sublist.refl _⟩
  · intro handler member
    contradiction
  · intro event member
    contradiction
  · intro handler member
    contradiction

theorem Keeps.backlog_eq (keeps : Keeps queue room past course events) :
    course.server.backlog queue = events.waiting := by
  simp [backlog, keeps.found]

/-- **What a subscriber is told.**  A server is bound, somebody subscribes with some capacity, the
server is started, and then anything happens in any order.  The server serves until it is told to
stop.  The beginnings of all connections are published in their order, numbered from one.  The
subscriber receives some of the events that are published, in their order: the beginnings with
increasing numbers, the end of a connection at most once and never before its beginning.  No more
events wait than the capacity allows for, and an event that is published waits too, unless that many
events wait already or the subscriber has gone.  What an event tells of a connection is true of the
connection of its number, and the end of a connection comes with what its session comes to alone. -/
theorem told_of_connections {config : ServiceConfig} {address : SocketAddress} {capacity : Nat}
    {subscribed begun : Server} {queue : Nat}
    (subscribes : (listening config address).subscribe capacity = .ok (subscribed, queue))
    (starts : subscribed.start = .ok begun) (occurrences : List Occurrence) :
    let course := Course.after queue begun occurrences
    let server := course.server
    server = occurrences.foldl happen begun ∧
    (server.isRunning = true ↔ ∀ occurrence ∈ occurrences, occurrence.isShutdown = false) ∧
    course.published.filterMap ServerEvent.begun? =
      List.range' 1 (connections occurrences).length ∧
    course.received.Sublist course.published ∧
    (course.received.filterMap ServerEvent.begun?).Pairwise (· < ·) ∧
    (course.received.filterMap ServerEvent.ended?).Nodup ∧
    course.received.Pairwise NotBefore ∧
    server.queued queue ≤ max capacity 1 ∧
    (∀ occurrence event, server.announces? occurrence = some event →
      (server.happen occurrence).backlog queue = server.backlog queue ++ [event] ∨
        (server.happen occurrence).backlog queue = server.backlog queue ∧
          (server.queued queue = max capacity 1 ∨
            ∃ earlier ∈ occurrences, earlier.isDeparture queue = true)) ∧
    ∀ event ∈ course.published,
      match event with
      | .accepted number peer =>
        ∃ index streams, number = index + 1 ∧
          (connections occurrences)[index]? = some (peer, streams)
      | .closed number peer summary =>
        ∃ index streams, number = index + 1 ∧
          (connections occurrences)[index]? = some (peer, streams) ∧
          summary = ((Session.start (settingsOf config)).run 0 streams).session.summary := by
  intro course server
  obtain ⟨attends, tells, events, keeps⟩ : Kept (settingsOf config) queue (max capacity 1)
      ([] ++ occurrences) course := (kept_start subscribes starts).foldl occurrences
  have holds := keeps.holds
  rw [List.nil_append] at attends tells keeps holds
  have received : course.received.Sublist course.published :=
    (List.sublist_append_left _ _).trans holds.sublist
  have queued_eq : server.queued queue = events.waiting.length := by
    simp [queued, server, keeps.found]
  refine ⟨Course.server_after queue begun occurrences, ?_, tells.begun_eq, received, ?_, ?_, ?_, ?_,
    ?_, ?_⟩
  · rw [attends.isRunning_eq]
    simp
  · refine List.Pairwise.sublist (received.filterMap _) ?_
    rw [tells.begun_eq]
    exact List.pairwise_lt_range'
  · exact tells.ended.sublist (received.filterMap _)
  · exact tells.ordered.sublist received
  · rw [queued_eq]
    exact holds.length_le
  · intro occurrence event announced
    have after_eq : (server.happen occurrence).queues[queue]? = some (events.offer event) := by
      rw [queues_happen keeps.feed_eq keeps.found occurrence, queueAfter, announced]
    have before_eq : server.backlog queue = events.waiting := keeps.backlog_eq
    have backlog_eq : (server.happen occurrence).backlog queue = (events.offer event).waiting := by
      simp [backlog, after_eq]
    rw [backlog_eq, before_eq, queued_eq]
    rcases holds.offer_cases event with ⟨added, -⟩ | ⟨dropped, why⟩
    · left
      rw [added]
    · right
      rw [dropped]
      exact ⟨rfl, why.imp id List.any_eq_true.1⟩
  · intro event member
    have isTrue := tells.isTrue event member
    cases event with
    | accepted number peer =>
      obtain ⟨streams, index, number_eq, found⟩ := isTrue
      exact ⟨index, streams, number_eq, found⟩
    | closed number peer summary =>
      obtain ⟨streams, ⟨index, number_eq, found⟩, same⟩ := isTrue
      exact ⟨index, streams, number_eq, found, same⟩

/-- Two connections and a failure between them.  The second connection ends, while the subscriber
has room for one event at a time. -/
def crowd : List Occurrence :=
  [.arrival (.ok (.v4 [127, 0, 0, 1] 40001, default)), .arrival (.error (.plain .other)),
    .arrival (.ok (.v4 [127, 0, 0, 1] 40002, default)), .answer 2, .answer 2, .reception 0,
    .farewell 2, .reception 0]

/-- A server that is bound and has a subscriber with room for one event. -/
def watched : Server :=
  { listening default (.v4 [127, 0, 0, 1] 5555) with
    queues := [.ofCapacity 1], pending := some 0 }

/-- The subscriber misses the beginning of the second connection, but is told of its end. -/
theorem told_of_connections_crowd :
    let begun : Server := { watched with phase := .serving, feed := some 0, pending := none }
    let course := Course.after 0 begun crowd
    (listening default (.v4 [127, 0, 0, 1] 5555)).subscribe 1 = .ok (watched, 0) ∧
      watched.start = .ok begun ∧
      course.received =
        [.accepted 1 (.v4 [127, 0, 0, 1] 40001),
          .closed 2 (.v4 [127, 0, 0, 1] 40002) ⟨0, 0, some .peerClosed⟩] ∧
      course.published.filterMap ServerEvent.begun? = [1, 2] ∧ course.server.queued 0 ≤ 1 := by
  intro begun course
  have subscribes : (listening default (.v4 [127, 0, 0, 1] 5555)).subscribe 1 =
      .ok (watched, 0) := rfl
  have starts : watched.start = .ok begun := rfl
  have received : course.received =
      [.accepted 1 (.v4 [127, 0, 0, 1] 40001),
        .closed 2 (.v4 [127, 0, 0, 1] 40002) ⟨0, 0, some .peerClosed⟩] := by rfl
  obtain ⟨-, -, begun_eq, -, -, -, -, queued, -⟩ := told_of_connections subscribes starts crowd
  exact ⟨subscribes, starts, received, begun_eq, queued⟩

end Server

end LineEcho
