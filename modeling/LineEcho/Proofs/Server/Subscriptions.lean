import LineEcho.Proofs.Server.Events

/-!
# Who is attached to a server

Nothing keeps those who use a server from subscribing, starting and stopping in any order, with
anything happening in between.  Only the first start succeeds.  It attaches the last one who has
subscribed by then to all connections to come, and closes the queues of the others.  A server that
has been stopped refuses to start again but not to be subscribed to, and nobody is ever told of
anything who subscribes to it then.
-/

namespace LineEcho

namespace Server

/-- What is asked of a server, and what happens to it. -/
inductive Call where
  | subscribe (capacity : Nat)
  | start
  | happening (occurrence : Occurrence)

namespace Call

def isStart : Call → Bool
  | start => true
  | _ => false

def isStop : Call → Bool
  | happening occurrence => occurrence.isShutdown
  | _ => false

end Call

/-- A server after a call.  One that is refused changes nothing. -/
def call (server : Server) : Call → Server
  | .subscribe capacity =>
    match server.subscribe capacity with
    | .ok (subscribed, _) => subscribed
    | .error _ => server
  | .start =>
    match server.start with
    | .ok begun => begun
    | .error _ => server
  | .happening occurrence => server.happen occurrence

def through (server : Server) (calls : List Call) : Server :=
  calls.foldl call server

/-- What every call keeps is kept by all of them. -/
theorem through_invariant (holds : Server → Prop)
    (keeps : ∀ server call, holds server → holds (Server.call server call)) {server : Server}
    (kept : holds server) (calls : List Call) : holds (server.through calls) := by
  induction calls generalizing server with
  | nil => exact kept
  | cons call calls ih => exact ih (keeps server call kept)

/-- The queue of a call that subscribes, if it is not refused. -/
def subscription? (server : Server) : Call → Option Nat
  | .subscribe capacity =>
    match server.subscribe capacity with
    | .ok (_, queue) => some queue
    | .error _ => none
  | _ => none

/-- The queues of those who have subscribed, the last one at the end. -/
def subscriptions (server : Server) : List Call → List Nat
  | [] => []
  | call :: calls => (server.subscription? call).toList ++ (server.call call).subscriptions calls

/-- Whether a server is told to stop once it has been started. -/
def isStoppedBy (calls : List Call) : Bool :=
  (calls.dropWhile (fun call => !call.isStart)).any Call.isStop

/-- The stage that comes next. -/
def Phase.next (phase : Phase) (call : Call) : Phase :=
  match phase with
  | bound => if call.isStart then serving else bound
  | serving => if call.isStop then stopped else serving
  | stopped => stopped

/-! ### What happens to the queues -/

section Happen

variable {server : Server} {queue : Nat}

theorem phase_happen (server : Server) (occurrence : Occurrence) :
    (server.happen occurrence).phase = server.phase.next (.happening occurrence) := by
  obtain ⟨address, settings, phase, queues, pending, feed, accepted, handlers⟩ := server
  cases occurrence with
  | arrival arrival => cases phase <;> cases arrival <;> simp [happen, accept] <;> rfl
  | answer number => cases phase <;> rfl
  | farewell number =>
    simp only [happen, Server.farewell]
    cases phase <;> split <;> simp <;> rfl
  | reception queue =>
    simp only [happen, receive]
    cases phase <;> split <;> rfl
  | departure queue => cases phase <;> rfl
  | shutdown => cases phase <;> rfl

@[simp]
theorem pending_publish (event : ServerEvent) (server : Server) :
    (publish event server).pending = server.pending := by
  unfold publish
  split <;> rfl

theorem pending_happen (server : Server) (occurrence : Occurrence) :
    (server.happen occurrence).pending = server.pending := by
  cases occurrence with
  | arrival arrival =>
    simp only [happen, accept]
    split
    · exact pending_publish _ _
    · rfl
  | answer number => rfl
  | farewell number =>
    simp only [happen, Server.farewell]
    split
    · exact pending_publish _ _
    · rfl
  | reception queue =>
    simp only [happen, receive]
    split <;> rfl
  | departure queue => rfl
  | shutdown =>
    simp only [happen, stop]
    split <;> rfl

/-- The queues after an event, which nobody but the subscriber is told of. -/
def queuesTold (event : ServerEvent) (feed : Option Nat) (queues : List EventQueue) :
    List EventQueue :=
  match feed with
  | some queue => queues.modify queue (·.offer event)
  | none => queues

theorem queues_publish_eq (event : ServerEvent) (server : Server) :
    (publish event server).queues = queuesTold event server.feed server.queues := by
  unfold publish queuesTold
  cases server.feed <;> rfl

/-- The queues after an occurrence. -/
def queuesAfter (server : Server) (occurrence : Occurrence) : List EventQueue :=
  match server.announces? occurrence, occurrence with
  | some event, _ => queuesTold event server.feed server.queues
  | none, .reception queue => (server.receive queue).2.queues
  | none, .departure queue => server.queues.modify queue (·.abandon)
  | none, _ => server.queues

theorem queues_happen_eq (server : Server) (occurrence : Occurrence) :
    (server.happen occurrence).queues = server.queuesAfter occurrence := by
  cases occurrence with
  | arrival arrival =>
    cases arrival with
    | error fault =>
      cases phase_eq : server.phase <;> simp [happen, accept, queuesAfter, announces?]
    | ok connection =>
      cases phase_eq : server.phase <;>
        simp [happen, accept, phase_eq, queuesAfter, announces?, isRunning, queues_publish_eq]
  | answer number => rfl
  | farewell number =>
    simp only [happen, Server.farewell, queuesAfter, announces?]
    split
    · rename_i handler found
      rw [found]
      exact queues_publish_eq _ _
    · rename_i found
      rw [found]
      rfl
  | reception queue => rfl
  | departure queue => rfl
  | shutdown =>
    simp only [happen, stop]
    split <;> rfl

theorem length_queuesTold (event : ServerEvent) (feed : Option Nat) (queues : List EventQueue) :
    (queuesTold event feed queues).length = queues.length := by
  unfold queuesTold
  split
  · exact List.length_modify _ _ _
  · rfl

theorem length_queues_happen (server : Server) (occurrence : Occurrence) :
    (server.happen occurrence).queues.length = server.queues.length := by
  rw [queues_happen_eq]
  unfold queuesAfter
  split
  · exact length_queuesTold _ _ _
  · unfold receive
    split
    · exact List.length_set
    · rfl
  · exact List.length_modify _ _ _
  · rfl

/-- A queue in which nothing waits, if there is such a queue at all. -/
def IsIdle (queue : Nat) (queues : List EventQueue) : Prop :=
  ∀ events, queues[queue]? = some events → events.waiting = []

theorem isIdle_queuesTold {feed : Option Nat} {queues : List EventQueue}
    (idle : IsIdle queue queues) (nobody : feed ≠ some queue) (event : ServerEvent) :
    IsIdle queue (queuesTold event feed queues) := by
  unfold queuesTold
  split
  · rename_i other
    intro events found
    have different : other ≠ queue := fun same => nobody (congrArg some same)
    rw [List.getElem?_modify_ne _ _ different] at found
    exact idle events found
  · exact idle

theorem isIdle_abandon {queues : List EventQueue} (idle : IsIdle queue queues) (other : Nat) :
    IsIdle queue (queues.modify other (·.abandon)) := by
  intro events found
  rw [List.getElem?_modify] at found
  obtain ⟨before, listed, rfl⟩ := Option.map_eq_some_iff.1 found
  split
  · rfl
  · exact idle before listed

theorem receive_of_isIdle (idle : IsIdle queue server.queues) :
    server.receive queue = (if server.feeds queue then .nothing else .ended, server) := by
  unfold receive
  cases found : server.queues[queue]? with
  | none => rfl
  | some events => simp [EventQueue.take?, idle events found]

theorem isIdle_receive (idle : IsIdle queue server.queues) (other : Nat) :
    IsIdle queue (server.receive other).2.queues := by
  by_cases own : other = queue
  · subst own
    rw [receive_of_isIdle idle]
    exact idle
  · unfold receive
    split
    · intro events found
      rw [List.getElem?_set_ne own] at found
      exact idle events found
    · exact idle

/-- Nothing gets into an idle queue that is not told of connections. -/
theorem isIdle_happen (idle : IsIdle queue server.queues) (nobody : server.feed ≠ some queue)
    (occurrence : Occurrence) : IsIdle queue (server.happen occurrence).queues := by
  rw [queues_happen_eq]
  unfold queuesAfter
  split
  · exact isIdle_queuesTold idle nobody _
  · exact isIdle_receive idle _
  · exact isIdle_abandon idle _
  · exact idle

end Happen

/-! ### The stages of a server -/

theorem phase_call (server : Server) (call : Call) :
    (server.call call).phase = server.phase.next call := by
  cases call with
  | subscribe capacity =>
    unfold Server.call Server.subscribe isRunning
    cases phase_eq : server.phase <;> simp [phase_eq, Phase.next, Call.isStart, Call.isStop]
  | start =>
    unfold Server.call Server.start
    cases phase_eq : server.phase <;> simp [phase_eq, Phase.next, Call.isStart, Call.isStop]
  | happening occurrence => exact phase_happen server occurrence

theorem foldl_next_stopped (calls : List Call) :
    calls.foldl Phase.next .stopped = .stopped := by
  induction calls with
  | nil => rfl
  | cons call calls ih => exact ih

theorem foldl_next_serving (calls : List Call) :
    calls.foldl Phase.next .serving = if calls.any Call.isStop then .stopped else .serving := by
  induction calls with
  | nil => rfl
  | cons call calls ih =>
    rw [List.foldl_cons, List.any_cons]
    cases stops : call.isStop with
    | true => simpa [Phase.next, stops] using foldl_next_stopped calls
    | false => simpa [Phase.next, stops] using ih

theorem foldl_next_bound (calls : List Call) :
    calls.foldl Phase.next .bound =
      if calls.any Call.isStart then if isStoppedBy calls then .stopped else .serving
      else .bound := by
  induction calls with
  | nil => rfl
  | cons call calls ih =>
    rw [List.foldl_cons, List.any_cons, isStoppedBy]
    cases starts : call.isStart with
    | true =>
      have noStop : call.isStop = false := by
        cases call with
        | start => rfl
        | subscribe capacity => rfl
        | happening occurrence => contradiction
      simpa [Phase.next, starts, noStop] using foldl_next_serving calls
    | false => simpa [Phase.next, starts, isStoppedBy] using ih

theorem any_isStart_of_isStoppedBy {calls : List Call} (stopped : isStoppedBy calls = true) :
    calls.any Call.isStart = true := by
  induction calls with
  | nil => contradiction
  | cons call calls ih =>
    rw [List.any_cons]
    cases starts : call.isStart with
    | true => rfl
    | false => exact ih (by simpa [isStoppedBy, starts] using stopped)

theorem phase_through (server : Server) (calls : List Call) :
    (server.through calls).phase = calls.foldl Phase.next server.phase := by
  induction calls generalizing server with
  | nil => rfl
  | cons call calls ih =>
    rw [List.foldl_cons, ← phase_call]
    exact ih _

theorem starts_iff {server : Server} :
    (∃ begun, server.start = .ok begun) ↔ server.phase = .bound := by
  unfold Server.start
  cases server.phase <;> simp

theorem call_start_of_begun {server : Server} (begun : server.phase ≠ .bound) :
    server.call .start = server := by
  unfold Server.call Server.start
  cases phase_eq : server.phase with
  | bound => contradiction
  | serving => rfl
  | stopped => rfl

/-- A server with another queue, which the next start hands on. -/
def withQueue (capacity : Nat) (server : Server) : Server :=
  { server with
    queues := server.queues ++ [.ofCapacity capacity], pending := some server.queues.length }

theorem subscribe_cases (capacity : Nat) (server : Server) :
    (server.phase ≠ .serving ∧
        server.subscribe capacity = .ok (server.withQueue capacity, server.queues.length)) ∨
      server.phase = .serving ∧
        server.subscribe capacity = .error (.config "Cannot subscribe to a running server") := by
  by_cases serving : server.phase = .serving
  · exact .inr ⟨serving, if_pos (by simp [isRunning, serving])⟩
  · exact .inl ⟨serving, if_neg (by simp [isRunning, serving])⟩

theorem call_subscribe (capacity : Nat) (server : Server) :
    server.call (.subscribe capacity) =
      if server.phase = .serving then server else server.withQueue capacity := by
  obtain ⟨phase_ne, accepted⟩ | ⟨phase_eq, refused⟩ := subscribe_cases capacity server
  · simp [Server.call, accepted, phase_ne]
  · simp [Server.call, refused, phase_eq]

theorem subscribes_iff {server : Server} {capacity : Nat} :
    (∃ subscribed queue, server.subscribe capacity = .ok (subscribed, queue)) ↔
      server.phase ≠ .serving := by
  obtain ⟨phase_ne, accepted⟩ | ⟨phase_eq, refused⟩ := subscribe_cases capacity server
  · exact ⟨fun _ => phase_ne, fun _ => ⟨_, _, accepted⟩⟩
  · simp [phase_eq, refused]

theorem phase_listening_through (config : ServiceConfig) (address : SocketAddress)
    (calls : List Call) :
    ((listening config address).through calls).phase =
      if calls.any Call.isStart then if isStoppedBy calls then .stopped else .serving
      else .bound :=
  (phase_through _ _).trans (foldl_next_bound _)

theorem starts_listening_iff {config : ServiceConfig} {address : SocketAddress}
    {calls : List Call} :
    (∃ begun, ((listening config address).through calls).start = .ok begun) ↔
      ∀ call ∈ calls, call.isStart = false := by
  rw [starts_iff, phase_listening_through]
  cases started : calls.any Call.isStart with
  | true =>
    obtain ⟨call, member, starts⟩ := List.any_eq_true.1 started
    have refused : ¬∀ call ∈ calls, call.isStart = false :=
      fun noStart => by simp [noStart call member] at starts
    cases isStoppedBy calls <;> simp [refused]
  | false => simpa using started

theorem subscribes_listening_iff {config : ServiceConfig} {address : SocketAddress}
    {calls : List Call} {capacity : Nat} :
    (∃ subscribed queue,
        ((listening config address).through calls).subscribe capacity = .ok (subscribed, queue)) ↔
      (∀ call ∈ calls, call.isStart = false) ∨ isStoppedBy calls = true := by
  rw [← @starts_listening_iff config address, starts_iff, subscribes_iff,
    phase_listening_through]
  cases calls.any Call.isStart <;> cases isStoppedBy calls <;> simp

theorem phase_of_isStoppedBy (config : ServiceConfig) (address : SocketAddress)
    {calls : List Call} (stopped : isStoppedBy calls = true) :
    ((listening config address).through calls).phase = .stopped := by
  rw [phase_listening_through, any_isStart_of_isStoppedBy stopped, if_pos rfl, stopped, if_pos rfl]

theorem isIdle_withQueue {server : Server} {queue : Nat} (idle : IsIdle queue server.queues)
    (capacity : Nat) : IsIdle queue (server.withQueue capacity).queues := by
  intro events found
  rw [withQueue, List.getElem?_append] at found
  split at found
  · exact idle events found
  · rw [List.mem_singleton.1 (List.mem_of_getElem? found)]
    rfl

/-- Whatever queue is told of connections, or will be, is there. -/
structure NamesListed (server : Server) : Prop where
  pending_lt : ∀ queue ∈ server.pending, queue < server.queues.length
  feed_lt : ∀ queue ∈ server.feed, queue < server.queues.length

theorem namesListed_listening (config : ServiceConfig) (address : SocketAddress) :
    (listening config address).NamesListed := by
  constructor <;> rintro queue ⟨⟩

theorem NamesListed.call {server : Server} (listed : server.NamesListed) (call : Call) :
    (server.call call).NamesListed := by
  cases call with
  | subscribe capacity =>
    rw [call_subscribe]
    split
    · exact listed
    · have length_eq : (server.withQueue capacity).queues.length = server.queues.length + 1 :=
        List.length_append
      constructor <;> rw [length_eq]
      · rintro _ ⟨⟩
        exact Nat.lt_succ_self _
      · exact fun queue fed => Nat.lt_succ_of_lt (listed.feed_lt queue fed)
  | start =>
    unfold Server.call Server.start
    cases server.phase with
    | bound => exact ⟨nofun, listed.pending_lt⟩
    | serving => exact listed
    | stopped => exact listed
  | happening occurrence =>
    constructor
    · rw [show (server.call (.happening occurrence)).pending = _ from pending_happen _ _]
      exact (length_queues_happen server occurrence).symm ▸ listed.pending_lt
    · rw [show (server.call (.happening occurrence)).feed = _ from (moves_happen _ _).feed_eq]
      exact (length_queues_happen server occurrence).symm ▸ listed.feed_lt

/-! ### Before the start -/

/-- A server that has not been started, with the queues of those who have subscribed so far. -/
structure IsFresh (server : Server) (named : List Nat) : Prop where
  phase_eq : server.phase = .bound
  feed_eq : server.feed = none
  pending_eq : server.pending = named.getLast?
  listed : ∀ queue ∈ named, queue < server.queues.length
  idle : ∀ queue, IsIdle queue server.queues

variable {server : Server} {named : List Nat}

theorem isFresh_listening (config : ServiceConfig) (address : SocketAddress) :
    (listening config address).IsFresh [] where
  phase_eq := rfl
  feed_eq := rfl
  pending_eq := rfl
  listed := nofun
  idle := nofun

theorem IsFresh.subscribe (fresh : server.IsFresh named) (capacity : Nat) :
    (server.withQueue capacity).IsFresh (named ++ [server.queues.length]) where
  phase_eq := fresh.phase_eq
  feed_eq := fresh.feed_eq
  pending_eq := (List.getLast?_concat).symm
  listed := by
    intro queue member
    rw [withQueue, List.length_append]
    rcases List.mem_append.1 member with old | new
    · exact Nat.lt_succ_of_lt (fresh.listed queue old)
    · rw [List.mem_singleton.1 new]
      exact Nat.lt_succ_self _
  idle queue := isIdle_withQueue (fresh.idle queue) capacity

theorem IsFresh.happen (fresh : server.IsFresh named) (occurrence : Occurrence) :
    (server.happen occurrence).IsFresh named where
  phase_eq := by
    rw [phase_happen, fresh.phase_eq]
    rfl
  feed_eq := (moves_happen server occurrence).feed_eq.trans fresh.feed_eq
  pending_eq := (pending_happen server occurrence).trans fresh.pending_eq
  listed := by
    rw [length_queues_happen]
    exact fresh.listed
  idle queue := isIdle_happen (fresh.idle queue) (by simp [fresh.feed_eq]) occurrence

theorem IsFresh.call (fresh : server.IsFresh named) {call : Call} (noStart : call.isStart = false) :
    (server.call call).IsFresh (named ++ (server.subscription? call).toList) := by
  cases call with
  | subscribe capacity =>
    obtain ⟨-, accepted⟩ | ⟨phase_eq, -⟩ := subscribe_cases capacity server
    · simpa [Server.call, subscription?, accepted] using fresh.subscribe capacity
    · cases phase_eq.symm.trans fresh.phase_eq
  | start => contradiction
  | happening occurrence =>
    show (server.happen occurrence).IsFresh (named ++ [])
    rw [List.append_nil]
    exact fresh.happen occurrence

theorem IsFresh.through (fresh : server.IsFresh named) {calls : List Call}
    (noStart : ∀ call ∈ calls, call.isStart = false) :
    (server.through calls).IsFresh (named ++ server.subscriptions calls) := by
  induction calls generalizing server named with
  | nil =>
    rw [subscriptions, List.append_nil]
    exact fresh
  | cons call calls ih =>
    obtain ⟨noStart, noStarts⟩ := List.forall_mem_cons.1 noStart
    rw [subscriptions, ← List.append_assoc]
    exact ih (fresh.call noStart) noStarts

/-! ### After the start -/

/-- A server that has been started, and tells one subscriber of connections, or nobody. -/
structure HasBegun (feed : Option Nat) (server : Server) : Prop where
  phase_ne : server.phase ≠ .bound
  feed_eq : server.feed = feed

variable {feed : Option Nat} {queue : Nat}

theorem HasBegun.call (begun : HasBegun feed server) (call : Call) :
    HasBegun feed (server.call call) where
  phase_ne := by
    rw [phase_call]
    cases phase_eq : server.phase with
    | bound => exact absurd phase_eq begun.phase_ne
    | serving => cases stops : call.isStop <;> simp [Phase.next, stops]
    | stopped => exact nofun
  feed_eq := by
    cases call with
    | subscribe capacity =>
      rw [call_subscribe]
      split <;> exact begun.feed_eq
    | start =>
      rw [call_start_of_begun begun.phase_ne]
      exact begun.feed_eq
    | happening occurrence => exact (moves_happen server occurrence).feed_eq.trans begun.feed_eq

/-- A queue that a server does not tell of connections, and in which nothing waits. -/
structure IsApart (queue : Nat) (server : Server) : Prop where
  phase_ne : server.phase ≠ .bound
  feed_ne : server.feed ≠ some queue
  listed : queue < server.queues.length
  idle : IsIdle queue server.queues

theorem IsApart.call (apart : IsApart queue server) (call : Call) :
    IsApart queue (server.call call) := by
  have begun := HasBegun.call ⟨apart.phase_ne, rfl⟩ call
  suffices kept : queue < (server.call call).queues.length ∧
      IsIdle queue (server.call call).queues from
    ⟨begun.phase_ne, begun.feed_eq ▸ apart.feed_ne, kept.1, kept.2⟩
  cases call with
  | subscribe capacity =>
    rw [call_subscribe]
    split
    · exact ⟨apart.listed, apart.idle⟩
    · refine ⟨?_, isIdle_withQueue apart.idle capacity⟩
      rw [withQueue, List.length_append]
      exact Nat.lt_add_right _ apart.listed
  | start =>
    rw [call_start_of_begun apart.phase_ne]
    exact ⟨apart.listed, apart.idle⟩
  | happening occurrence =>
    refine ⟨?_, isIdle_happen apart.idle apart.feed_ne occurrence⟩
    exact (length_queues_happen server occurrence).symm ▸ apart.listed

/-- There is nothing to come as long as the queue might still be handed on, and otherwise it has
ended. -/
theorem IsApart.receive_eq (apart : IsApart queue server) :
    server.receive queue = (if server.pending = some queue then .nothing else .ended, server) := by
  rw [receive_of_isIdle apart.idle]
  simp [feeds, apart.feed_ne]

/-- A queue that a server neither tells of connections nor ever will. -/
structure IsClosed (queue : Nat) (server : Server) : Prop where
  apart : IsApart queue server
  pending_ne : server.pending ≠ some queue

theorem IsClosed.call (closed : IsClosed queue server) (call : Call) :
    IsClosed queue (server.call call) := by
  refine ⟨closed.apart.call call, ?_⟩
  cases call with
  | subscribe capacity =>
    rw [call_subscribe]
    split
    · exact closed.pending_ne
    · exact fun same => Nat.ne_of_gt closed.apart.listed (Option.some.inj same)
  | start =>
    rw [call_start_of_begun closed.apart.phase_ne]
    exact closed.pending_ne
  | happening occurrence => exact (pending_happen server occurrence).symm ▸ closed.pending_ne

/-- An event goes to the subscriber that a server has been started with. -/
theorem HasBegun.told (begun : HasBegun feed server) {occurrence : Occurrence}
    {event : ServerEvent} (announced : server.announces? occurrence = some event) :
    (server.happen occurrence).queues = queuesTold event feed server.queues := by
  rw [queues_happen_eq, ← begun.feed_eq]
  simp only [queuesAfter, announced]

theorem IsFresh.begun (fresh : server.IsFresh named) {begun : Server}
    (starts : server.start = .ok begun) : HasBegun named.getLast? begun := by
  rw [Server.start, fresh.phase_eq] at starts
  cases starts
  exact ⟨nofun, fresh.pending_eq⟩

/-- Those who subscribed before the last one have nothing to wait for. -/
theorem IsFresh.closed (fresh : server.IsFresh named) {begun : Server}
    (starts : server.start = .ok begun) (member : queue ∈ named)
    (earlier : named.getLast? ≠ some queue) :
    IsClosed queue begun := by
  have hasBegun := fresh.begun starts
  rw [Server.start, fresh.phase_eq] at starts
  cases starts
  exact ⟨⟨nofun, hasBegun.feed_eq ▸ earlier, fresh.listed queue member, fresh.idle queue⟩, nofun⟩

/-- Whoever subscribes to a server that has been stopped is not attached to it. -/
theorem NamesListed.isApart_withQueue (listed : server.NamesListed)
    (stopped : server.phase = .stopped) (capacity : Nat) :
    IsApart server.queues.length (server.withQueue capacity) where
  phase_ne := by
    show server.phase ≠ .bound
    rw [stopped]
    exact nofun
  feed_ne := fun fed => Nat.lt_irrefl _ (listed.feed_lt _ fed)
  listed := by
    rw [withQueue, List.length_append]
    exact Nat.lt_succ_self _
  idle := by
    refine isIdle_withQueue (fun events found => ?_) capacity
    rw [List.getElem?_eq_none (Nat.le_refl _)] at found
    contradiction

/-- **Subscriptions.**  A server is bound, and then anybody subscribes to it, starts it and stops it
in any order, with anything happening in between.  It can be started exactly as long as it has not
been, even if it has been told to stop.  It can be subscribed to as long as it has not been started,
but also once it has been stopped.  When it is started, all it tells of connections from then on
goes to the last one who has subscribed, and for those before there is nothing to wait for.  Whoever
subscribes after the stop is never told of anything either, but finds an end only if somebody else
subscribes too. -/
theorem subscriptions_attached (config : ServiceConfig) (address : SocketAddress)
    (calls : List Call) :
    let server := (listening config address).through calls
    let named := (listening config address).subscriptions calls
    ((∃ begun, server.start = .ok begun) ↔ ∀ call ∈ calls, call.isStart = false) ∧
    (∀ capacity,
      (∃ subscribed queue, server.subscribe capacity = .ok (subscribed, queue)) ↔
        (∀ call ∈ calls, call.isStart = false) ∨ isStoppedBy calls = true) ∧
    (∀ begun, server.start = .ok begun → ∀ more,
      let later := begun.through more
      (∀ occurrence event, later.announces? occurrence = some event →
        (later.happen occurrence).queues = queuesTold event named.getLast? later.queues) ∧
      ∀ queue ∈ named, named.getLast? ≠ some queue → later.receive queue = (.ended, later)) ∧
    ∀ capacity subscribed queue, isStoppedBy calls = true →
      server.subscribe capacity = .ok (subscribed, queue) → ∀ more,
        let later := subscribed.through more
        later.receive queue = (if later.pending = some queue then .nothing else .ended, later) := by
  intro server named
  refine ⟨starts_listening_iff, fun capacity => subscribes_listening_iff, ?_, ?_⟩
  · intro begun begins more
    have fresh := (isFresh_listening config address).through
      (starts_listening_iff.1 ⟨begun, begins⟩)
    have stays := through_invariant (HasBegun _) (fun _ call begun => begun.call call)
      (fresh.begun begins) more
    refine ⟨fun occurrence event => stays.told, ?_⟩
    intro queue member earlier
    have closed := through_invariant (IsClosed queue) (fun _ call closed => closed.call call)
      (fresh.closed begins member earlier) more
    rw [closed.apart.receive_eq, if_neg closed.pending_ne]
  · intro capacity subscribed queue stopped subscribes more
    have phase_eq : server.phase = .stopped := phase_of_isStoppedBy config address stopped
    have listed := through_invariant NamesListed (fun _ call listed => listed.call call)
      (namesListed_listening config address) calls
    obtain ⟨-, accepted⟩ | ⟨serving, -⟩ := subscribe_cases capacity server
    · cases accepted.symm.trans subscribes
      exact (through_invariant (IsApart server.queues.length) (fun _ call apart => apart.call call)
        (listed.isApart_withQueue phase_eq capacity) more).receive_eq
    · cases phase_eq.symm.trans serving

/-- Somebody connects. -/
def visit : Occurrence :=
  .arrival (.ok (.v4 [127, 0, 0, 1] 40001, default))

/-- Two subscribe before the start, and the second one is told of a connection. -/
theorem subscriptions_attached_rivals :
    let bound := listening default (.v4 [127, 0, 0, 1] 5555)
    let server := bound.through [.subscribe 1, .subscribe 2]
    let begun : Server := { server with phase := .serving, feed := some 1, pending := none }
    let event := ServerEvent.accepted 1 (.v4 [127, 0, 0, 1] 40001)
    (server.start = .ok begun ∧ begun.announces? visit = some event ∧
      (begun.happen visit).queues = queuesTold event (some 1) begun.queues ∧
      begun.receive 0 = (.ended, begun)) ∧
    (isStoppedBy [.start, .happening .shutdown] = true ∧
      ∃ late, (bound.through [.start, .happening .shutdown]).subscribe 1 = .ok (late, 0) ∧
        late.receive 0 = (.nothing, late)) := by
  intro bound server begun event
  obtain ⟨-, -, attached, -⟩ := subscriptions_attached default (.v4 [127, 0, 0, 1] 5555)
    [.subscribe 1, .subscribe 2]
  have starts : server.start = .ok begun := rfl
  have announced : begun.announces? visit = some event := rfl
  have ⟨told, closed⟩ := attached begun starts []
  obtain ⟨-, -, -, detached⟩ := subscriptions_attached default (.v4 [127, 0, 0, 1] 5555)
    [.start, .happening .shutdown]
  exact ⟨⟨starts, announced, told visit event announced, closed 0 (by decide) (by decide)⟩,
    rfl, _, rfl, detached 1 _ 0 rfl rfl []⟩

/-- A server that has been started and stopped is subscribed to, and the subscriber waits for
nothing. -/
theorem subscribes_after_stop :
    let bound := listening default (.v4 [127, 0, 0, 1] 5555)
    (∃ begun, bound.start = .ok begun) ∧
      ∃ late, (bound.through [.start, .happening .shutdown]).subscribe 1 = .ok (late, 0) ∧
        (late.receive 0).1 = .nothing :=
  ⟨⟨_, rfl⟩, _, rfl, rfl⟩

end Server

end LineEcho
