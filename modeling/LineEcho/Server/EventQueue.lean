import LineEcho.Address
import LineEcho.Echo.Session

/-!
# What a server tells its subscriber

Events wait in a queue of bounded room until the subscriber takes them. An event for which there is
no room, or nobody any more to take it, is dropped.
-/

namespace LineEcho

/-- The beginning and the end of a connection. Connections are numbered. -/
inductive ServerEvent where
  | accepted (connection : Nat) (peer : SocketAddress)
  | closed (connection : Nat) (peer : SocketAddress) (summary : Summary)
  deriving DecidableEq, Repr

/-- The events that a subscriber has not taken yet, the oldest first. -/
structure EventQueue where
  room : Nat
  waiting : List ServerEvent
  isAbandoned : Bool
  deriving DecidableEq, Repr

namespace EventQueue

/-- A queue for a new subscriber. It has room for one event at least. -/
def ofCapacity (capacity : Nat) : EventQueue :=
  ⟨max capacity 1, [], false⟩

def refuses (queue : EventQueue) : Bool :=
  queue.isAbandoned || decide (queue.room ≤ queue.waiting.length)

/-- Puts an event into the queue, or drops it. -/
def offer (event : ServerEvent) (queue : EventQueue) : EventQueue :=
  if queue.refuses then queue else { queue with waiting := queue.waiting ++ [event] }

def take? (queue : EventQueue) : Option (ServerEvent × EventQueue) :=
  match queue.waiting with
  | [] => none
  | event :: rest => some (event, { queue with waiting := rest })

/-- The queue of a subscriber who has gone. -/
def abandon (queue : EventQueue) : EventQueue :=
  { queue with waiting := [], isAbandoned := true }

end EventQueue

end LineEcho
