import LineEcho.Client
import LineEcho.Live.Faults
import LineEcho.Server.Basic
import Std.Async.DNS
import Std.Async.Signal
import Std.Async.TCP
import Std.Async.Timer

/-!
# Parties on real connections

The parties of a transfer and the sessions of a service ask, and what they ask for is done on a
socket, as far as their deadlines allow. All decisions are theirs.
-/

namespace LineEcho.Live

open Std.Async (Async Selectable Selector)

/-- A connection, the file that flows out on it, and the moment from which its clock counts. -/
structure Wire where
  socket : Std.Async.TCP.Socket.Client
  file : Option IO.FS.Handle
  began : Nat

/-- The moment on the clock of a connection. -/
def Wire.now (wire : Wire) : IO Instant := do
  return (← IO.monoMsNow) - wire.began

/-- The answer to a read that gave some octets, or the end. -/
def received (octets : Option ByteArray) : Answer :=
  .received ((octets.map (·.toList)).getD [])

/-- Fetches the next piece of a file. -/
def fetch (room : Nat) : Option IO.FS.Handle → IO Answer
  | some file => do return received (some (← file.read (USize.ofNat room)))
  | none => return received none

/-- Does what is asked for, however long it takes. -/
def Wire.perform (wire : Wire) : Request → Async Answer
  | .fetch room => fetch room wire.file
  | .read room => do return received (← wire.socket.recv? (UInt64.ofNat room))
  | .write octets => do
    wire.socket.send ⟨octets.toArray⟩
    return .accepted octets.length
  | .flush => return .completed
  | .shutdown => do
    wire.socket.shutdown
    return .completed

/-- So many milliseconds. -/
def millis (count : Nat) : Std.Time.Millisecond.Offset :=
  .ofNat count

/-- What comes of an action, or a fallback if that takes more than so many milliseconds. -/
def within {α : Type} (left : Nat) (fallback : α) (action : Async α) : Async α :=
  have : Inhabited α := ⟨fallback⟩
  Async.race action do
    Std.Async.sleep (millis left)
    return fallback

/-- Does what is asked for, or gives up after so many milliseconds. -/
def Wire.performWithin (wire : Wire) (limit : Duration) (left : Nat) : Request → Async Answer
  | .read room => do
    Selectable.one
      #[.case (wire.socket.recvSelector (UInt64.ofNat room))
          (fun octets => return received octets),
        .case (← Selector.sleep (millis left)) (fun _ => return .failed (.noProgress limit))]
  | asked => within left (.failed (.noProgress limit)) (wire.perform asked)

/-- Answers a request. -/
def Wire.answer (wire : Wire) (deadline : Option Deadline) (asked : Request) : Async Answer := do
  try
    match deadline with
    | none => wire.perform asked
    | some bound => wire.performWithin bound.limit (bound.instant - (← wire.now)) asked
  catch error => return .failed (faultOf error)

/-- Lets a party go on until it asks for nothing more. -/
partial def drive {σ : Type} (machine : Machine σ) (wire : Wire) (state : σ) : Async σ := do
  match machine.request state with
  | none => return state
  | some asked =>
    let answer ← wire.answer (machine.deadline state) asked
    drive machine wire (machine.resume (← wire.now) answer state)

/-- The address of a host. -/
def lookUp (host : String) (port : UInt16) : Async Std.Net.SocketAddress := do
  match (← Std.Async.DNS.getAddrInfo host "").toList with
  | .v4 address :: _ => return .v4 ⟨address, port⟩
  | .v6 address :: _ => return .v6 ⟨address, port⟩
  | [] => throw (IO.userError Network.unknownHost.text)

/-- Connects to a host. -/
def dial (config : ClientConfig) : Async Std.Async.TCP.Socket.Client := do
  let socket ← Std.Async.TCP.Socket.Client.mk
  socket.connect (← lookUp config.host config.port)
  if config.noDelay then socket.noDelay
  return socket

/-- Connects to the host of a configuration within its limit. -/
def connect (config : ClientConfig) : Async (Except Error Std.Async.TCP.Socket.Client) := do
  match config.validate with
  | .error error => return .error error
  | .ok () =>
    try
      match timeoutOf config.connectTimeout with
      | none => return .ok (← dial config)
      | some limit =>
        within limit.ticks (.error (.connect config.address (.noProgress limit)))
          (do return .ok (← dial config))
    catch error => return .error (.connect config.address (faultOf error))

/-- The two sides of a transfer where they stand. -/
def exchangeAt (now : Instant) (delivery : Delivery) (draining : Draining) : Exchange :=
  ⟨now, delivery, draining, draining.isFinished, default⟩

/-- Waits for the side of a transfer that comes to its end first, and leaves the other one where it
was. -/
def firstSide (wire : Wire) (delivery : Delivery) (draining : Draining)
    (delivering : Std.Async.AsyncTask Delivery) (receiving : Std.Async.AsyncTask Draining) :
    Async Exchange :=
  have : Inhabited Exchange := ⟨exchangeAt 0 delivery draining⟩
  Async.race
    (do
      let delivered ← Std.Async.await delivering
      return exchangeAt (← wire.now) delivered draining)
    (do
      let drained ← Std.Async.await receiving
      return exchangeAt (← wire.now) delivery drained)

/-- Lets both sides of a transfer go on until it is over. -/
def exchange (config : ClientConfig) (wire : Wire) : Async Exchange := do
  let began ← wire.now
  let delivery := Delivery.start began (.start Client.room config.lineEndings)
    (timeoutOf config.writeTimeout)
  let draining := Draining.start began (timeoutOf config.echoTimeout) (.empty config.captureEcho)
  let delivering ← Std.Async.async (drive Delivery.machine wire delivery)
  let receiving ← Std.Async.async (drive Draining.machine wire draining)
  let half ← firstSide wire delivery draining delivering receiving
  if half.failure?.isSome then return half
  let delivered ← Std.Async.await delivering
  let drained ← Std.Async.await receiving
  return exchangeAt (← wire.now) delivered drained

/-- Sends a file over a connection and reports on that. -/
def transfer (config : ClientConfig) (path : String) (socket : Std.Async.TCP.Socket.Client)
    (began : Nat) : Async (Except Error TransferReport) := do
  match ← attempt (IO.FS.Handle.mk path .read) with
  | .error fault => return .error (.transfer .reading fault)
  | .ok file =>
    let exchange ← exchange config ⟨socket, some file, began⟩
    return exchange.outcome.map (Client.report config path 0 exchange)

/-- Shuts a connection down, whatever comes of that. -/
def shutDown (socket : Std.Async.TCP.Socket.Client) : Async Unit := do
  try socket.shutdown
  catch _ => return

/-- Connects and sends a file. -/
def send (config : ClientConfig) (path : String) : Async (Except Error TransferReport) := do
  let began ← IO.monoMsNow
  match ← connect config with
  | .error error => return .error error
  | .ok socket =>
    let result ← transfer config path socket began
    if !result.isOk then shutDown socket
    return result

/-- The milliseconds for which nobody is accepted after a failure to accept somebody. -/
def acceptPause : Nat := 100

/-- What can happen to a service. -/
inductive Occasion where
  | arrival (socket : Std.Async.TCP.Socket.Client)
  | refusal
  | interruption

/-- Waits for somebody to connect or for the signal. -/
def occasion (listener : Std.Async.TCP.Socket.Server) (signal : Std.Async.Signal.Waiter) :
    Async Occasion := do
  try
    Selectable.one
      #[.case listener.acceptSelector (fun socket => return .arrival socket),
        .case signal.selector (fun _ => return .interruption)]
  catch _ => return .refusal

/-- Serves everybody who connects until the signal comes. -/
partial def accept (settings : EchoSettings) (listener : Std.Async.TCP.Socket.Server)
    (signal : Std.Async.Signal.Waiter) : Async Unit := do
  match ← occasion listener signal with
  | .interruption => return
  | .refusal =>
    Std.Async.sleep (millis acceptPause)
    accept settings listener signal
  | .arrival socket =>
    let wire : Wire := ⟨socket, none, ← IO.monoMsNow⟩
    let session := (Session.start settings).read (← wire.now)
    Std.Async.background (drive Session.machine wire session)
    accept settings listener signal

/-- Listens at the address of a configuration. -/
def listen (config : ServiceConfig) : Async (Except Error Std.Async.TCP.Socket.Server) := do
  match config.validate with
  | .error error => return .error error
  | .ok () =>
    try
      let listener ← Std.Async.TCP.Socket.Server.mk
      listener.bind (← lookUp config.host config.port)
      listener.listen config.backlog
      return .ok listener
    catch error => return .error (.bind config.address (faultOf error))

/-- Serves until the program is interrupted. -/
def serve (config : ServiceConfig) : Async (Except Error Unit) := do
  match ← listen config with
  | .error error => return .error error
  | .ok listener =>
    accept (Server.settingsOf config) listener (← Std.Async.Signal.Waiter.mk .sigint false)
    return .ok ()

end LineEcho.Live
