import LineEcho.Config.Basic
import LineEcho.Network
import LineEcho.Server.EventQueue

/-!
# The echo service: its life and its connections

A server is bound, then serves, and is stopped; it can be started only once. While it serves, each
connection that is accepted gets the next number and a session of its own, which goes on until it
ends, even if the server has been stopped by then. Those who subscribe get a queue of events. The
last one to do so before the start is told of all connections.
-/

namespace LineEcho

namespace Server

/-- The stages of a server's life. -/
inductive Phase where
  | bound
  | serving
  | stopped
  deriving DecidableEq, Repr

/-- A connection that has been accepted, and how far its session is on the connection's own
clock. -/
structure Handler where
  number : Nat
  peer : SocketAddress
  progress : Progress Session

end Server

/-- A server. Queues are named by their place in the order of subscription: `pending` is the one
that the next start hands on, and `feed` is the one that is told of connections. -/
structure Server where
  address : SocketAddress
  settings : EchoSettings
  phase : Server.Phase
  queues : List EventQueue
  pending : Option Nat
  feed : Option Nat
  accepted : Nat
  handlers : List Server.Handler

namespace Server

/-- The settings of the sessions of a service. -/
def settingsOf (config : ServiceConfig) : EchoSettings :=
  ⟨config.bufferSize.toNat, timeoutOf config.readTimeout, timeoutOf config.writeTimeout⟩

def listening (config : ServiceConfig) (address : SocketAddress) : Server :=
  ⟨address, settingsOf config, .bound, [], none, none, 0, []⟩

/-- Binds a server to the address of a configuration. -/
def bind (config : ServiceConfig) (network : Network) : Except Error (Server × Network) := do
  config.validate
  let (address, network) ←
    (network.listen config.host config.port).mapError (.bind config.address)
  return (listening config address, network)

def isRunning (server : Server) : Bool :=
  server.phase == .serving

def isListening (server : Server) : Bool :=
  server.phase != .stopped

/-- Subscribes to the events, with room for so many of them, and names the queue. Nobody can
subscribe while the server serves. -/
def subscribe (capacity : Nat) (server : Server) : Except Error (Server × Nat) :=
  if server.isRunning then .error (.config "Cannot subscribe to a running server")
  else
    .ok
      ({ server with
          queues := server.queues ++ [.ofCapacity capacity], pending := some server.queues.length },
        server.queues.length)

def start (server : Server) : Except Error Server :=
  match server.phase with
  | .bound => .ok { server with phase := .serving, feed := server.pending, pending := none }
  | _ => .error (.config "Server is already running")

def stop (server : Server) : Server :=
  if server.isRunning then { server with phase := .stopped } else server

/-- Gives a server up, whether it serves or not. -/
def discard (server : Server) : Server :=
  { server with phase := .stopped, pending := none }

/-- The network once a server has come from one stage to another: an address that it does not keep
is released. -/
def settle (before after : Server) (network : Network) : Network :=
  if before.isListening && !after.isListening then network.release before.address else network

/-- Tells the subscriber of an event, if there is one. -/
def publish (event : ServerEvent) (server : Server) : Server :=
  match server.feed with
  | some queue => { server with queues := server.queues.modify queue (·.offer event) }
  | none => server

/-- The session of a connection, which is just beginning. -/
def begin (settings : EchoSettings) (streams : Streams) : Progress Session :=
  ⟨0, (Session.start settings).read 0, streams, false⟩

/-- Takes what came of waiting for a connection. A failure concerns nobody else. -/
def accept (arrival : Except Fault (SocketAddress × Streams)) (server : Server) : Server :=
  match server.phase, arrival with
  | .serving, .ok (peer, streams) =>
    let number := server.accepted + 1
    publish (.accepted number peer)
      { server with
        accepted := number,
        handlers := server.handlers ++ [⟨number, peer, begin server.settings streams⟩] }
  | _, _ => server

def Handler.advance (handler : Handler) : Handler :=
  match Session.machine.request handler.progress.state with
  | some asked => { handler with progress := Session.machine.advance handler.progress asked }
  | none => handler

/-- Whether the session of a connection has ended. -/
def Handler.isOver (handler : Handler) : Bool :=
  (Session.machine.request handler.progress.state).isNone

/-- The event of the end of a connection. -/
def Handler.farewell (handler : Handler) : ServerEvent :=
  .closed handler.number handler.peer handler.progress.state.summary

/-- Lets the session of a numbered connection go on by one answer. -/
def advance (number : Nat) (server : Server) : Server :=
  { server with
    handlers := server.handlers.map
      (fun handler => if handler.number = number then handler.advance else handler) }

/-- Takes leave of a numbered connection if its session has ended. -/
def farewell (number : Nat) (server : Server) : Server :=
  match server.handlers.find? (fun handler => handler.number == number && handler.isOver) with
  | some handler =>
    publish handler.farewell
      { server with handlers := server.handlers.filter (fun other => other.number != number) }
  | none => server

/-- Whether somebody might still put an event into a queue. -/
def feeds (queue : Nat) (server : Server) : Bool :=
  server.pending == some queue ||
    (server.feed == some queue && (server.isRunning || !server.handlers.isEmpty))

/-- What a subscriber finds. -/
inductive Received where
  | event (event : ServerEvent)
  | nothing
  | ended
  deriving DecidableEq, Repr

def receive (queue : Nat) (server : Server) : Received × Server :=
  match server.queues[queue]?.bind (·.take?) with
  | some (event, rest) => (.event event, { server with queues := server.queues.set queue rest })
  | none => (if server.feeds queue then .nothing else .ended, server)

def queued (queue : Nat) (server : Server) : Nat :=
  (server.queues[queue]?.map (·.waiting.length)).getD 0

def unsubscribe (queue : Nat) (server : Server) : Server :=
  { server with queues := server.queues.modify queue (·.abandon) }

/-- What can happen to a server that serves, in any order. -/
inductive Occurrence where
  | arrival (arrival : Except Fault (SocketAddress × Streams))
  | answer (number : Nat)
  | farewell (number : Nat)
  | reception (queue : Nat)
  | departure (queue : Nat)
  | shutdown

def happen (server : Server) : Occurrence → Server
  | .arrival arrival => server.accept arrival
  | .answer number => server.advance number
  | .farewell number => server.farewell number
  | .reception queue => (server.receive queue).2
  | .departure queue => server.unsubscribe queue
  | .shutdown => server.stop

/-- Starts a server to serve until it is told to stop, and says whether it does. One that cannot be
started is given up. -/
def serve (server : Server) : Server × Except Error Unit :=
  match server.start with
  | .ok started => (started, .ok ())
  | .error error => (server.discard, .error error)

end Server

end LineEcho
