import LineEcho.Config.Basic
import LineEcho.Files.FileSystem
import LineEcho.Network
import LineEcho.Stream.Attempt
import LineEcho.Transfer.Exchange
import LineEcho.Transfer.Report
import LineEcho.Transfer.State

/-!
# The client

A client holds a connection until it has performed its one transfer, and releases it whatever comes
of that. A transfer that fails still shuts its direction down.
-/

namespace LineEcho

/-- A connection to a peer: its streams, and the moment from which on they are used. -/
structure Connection where
  peer : SocketAddress
  since : Instant
  streams : Streams

namespace Client

/-- What a client is at: it is connected, or its one transfer is over and has succeeded or not. -/
inductive Phase where
  | connected (connection : Connection)
  | released (succeeded : Bool)

end Client

/-- A party that sends one file. -/
structure Client where
  config : ClientConfig
  phase : Client.Phase

namespace Client

/-- The stage that a client is at between transfers. -/
def state (client : Client) : TransferState :=
  match client.phase with
  | .connected _ => .connecting
  | .released true => .closed
  | .released false => .failed

/-- The peer, as long as there is a connection to it. -/
def peer? (client : Client) : Option SocketAddress :=
  match client.phase with
  | .connected connection => some connection.peer
  | .released _ => none

/-- The moment at which a client was connected, as long as it is. -/
def since (client : Client) : Instant :=
  match client.phase with
  | .connected connection => connection.since
  | .released _ => 0

/-- Connects to the host that a configuration names, which must be a concrete one, within its limit.
A host that cannot be reached is reported with its address. -/
def connect (network : Network) (config : ClientConfig) : Except Error Client := do
  config.validate
  let dialing ← (network.dialHost config.host config.port).mapError (.connect config.address)
  match Attempt.within (timeoutOf config.connectTimeout) dialing.steps with
  | (since, .ok ()) => .ok ⟨config, .connected ⟨dialing.peer, since, dialing.streams⟩⟩
  | (_, .error fault) => .error (.connect config.address fault)

/-- A file as a transfer finds it: it cannot be opened, or here is what its fetches will find. -/
abbrev OpenedFile := Except Fault (List (Step Incoming))

/-- What has come of a transfer: its result, the client from then on, and the streams of the
connection that it released, if it did release one. -/
structure Transferred where
  result : Except Error TransferReport
  client : Client
  released : Option Streams

/-- Shuts the direction down that goes out, whatever comes of that. -/
def shutDown (now : Instant) (streams : Streams) : Streams :=
  (Attempt.machine.run now (.start .shutdown none now) streams).streams

/-- The room of the buffer that a file is read into. -/
def room : Nat := 8192

/-- The exchange of a transfer as it begins. -/
def exchange (config : ClientConfig) (content : List (Step Incoming)) (connection : Connection) :
    Exchange :=
  .start connection.since (.start room config.lineEndings) (timeoutOf config.writeTimeout)
    (timeoutOf config.echoTimeout) (.empty config.captureEcho)
    { connection.streams with source := .ofSteps content }

def microsBetween (start stop : Instant) : Nat :=
  (stop - start) * 1000

/-- The report on an exchange that is over. -/
def report (config : ClientConfig) (file : String) (since : Instant) (exchange : Exchange)
    (counts : SendCounts) : TransferReport :=
  .of file config.address counts exchange.draining.receipt (microsBetween since exchange.now)

/-- Sends the content of a file over a connection. The choices decide which side goes on first
whenever both could. -/
def send (config : ClientConfig) (choices : Nat → Side) (file : String)
    (content : List (Step Incoming)) (connection : Connection) :
    Except Error TransferReport × Streams :=
  let exchange := (exchange config content connection).finish choices
  match exchange.outcome with
  | .ok counts => (.ok (report config file connection.since exchange counts), exchange.streams)
  | .error error => (.error error, shutDown exchange.now exchange.streams)

/-- Performs the one transfer of a client. Later ones are refused. -/
def transfer (choices : Nat → Side) (file : String) (opened : OpenedFile) (client : Client) :
    Transferred :=
  match client.phase, opened with
  | .released _, _ =>
    ⟨.error (.invalidInput ("transfer already " ++ client.state.name)), client, none⟩
  | .connected connection, .error fault =>
    ⟨.error (.transfer .reading fault), { client with phase := .released false },
      some (shutDown connection.since connection.streams)⟩
  | .connected connection, .ok content =>
    let (result, streams) := send client.config choices file content connection
    ⟨result, { client with phase := .released result.isOk }, some streams⟩

/-- What fetches from an opened file find: its content, or that it cannot be read. -/
def stepsOf : Except Fault Bytes → List (Step Incoming)
  | .ok content => [.answer (.data content)]
  | .error fault => [.answer (.fails fault)]

/-- A file of a file system as a transfer finds it. -/
def openedFile (fileSystem : FileSystem) (path : String) : OpenedFile :=
  (fileSystem.openFile path).map stepsOf

def transferFile (fileSystem : FileSystem) (path : String) (client : Client) : Transferred :=
  client.transfer (fun _ => .outward) path (openedFile fileSystem path)

end Client

end LineEcho
