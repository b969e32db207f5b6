import LineEcho.Address
import LineEcho.Stream.Streams

/-!
# The network as one machine sees it

A network knows what becomes of every attempt to connect, which names stand for which hosts, and at
which addresses somebody listens. Listening takes an address until it is released.
-/

namespace LineEcho

/-- What becomes of an attempt to connect: the waits and the answer, and, if that is a good one, the
address of the peer and the connection. -/
structure Dialing where
  steps : List (Step Signal)
  peer : SocketAddress
  streams : Streams

/-- The peers that can be reached, the names of hosts, and the addresses that are taken. -/
structure Network where
  dial : SocketAddress → Dialing
  names : List (String × String)
  taken : List SocketAddress

namespace Network

/-- The fault of a name that stands for no host. -/
def unknownHost : Fault :=
  ⟨.other, "failed to lookup address information: Name or service not known"⟩

/-- The address of a host, which is given by its number or by a name for it. -/
def lookup (host : String) (port : UInt16) (network : Network) : Except Fault SocketAddress :=
  match SocketAddress.ofHost? ((network.names.lookup host).getD host) port with
  | some address => .ok address
  | none => .error unknownHost

/-- What becomes of an attempt to connect to a host. -/
def dialHost (host : String) (port : UInt16) (network : Network) : Except Fault Dialing :=
  (network.lookup host port).map network.dial

/-- Whether nobody can listen at an address because it is taken. -/
def isTaken (address : SocketAddress) (network : Network) : Bool :=
  network.taken.any (fun other => other.covers address || address.covers other)

/-- The first of the ports that are given out to those who do not ask for a certain one. -/
def firstSpare : Nat := 49152

/-- The number of ports that are given out. -/
def spareCount : Nat := 16384

/-- The address with the first port that is not taken, among so many from one port on. -/
def spare (network : Network) (asked : SocketAddress) : Nat → Nat → SocketAddress
  | 0, port => asked.withPort port
  | count + 1, port =>
    if network.isTaken (asked.withPort port) then network.spare asked count (port + 1)
    else asked.withPort port

/-- The address with a port that is not taken, if it asks for any port. -/
def concrete (asked : SocketAddress) (network : Network) : SocketAddress :=
  if asked.port = 0 then network.spare asked spareCount firstSpare else asked

/-- Listens at a host, and says at which address. -/
def listen (host : String) (port : UInt16) (network : Network) :
    Except Fault (SocketAddress × Network) := do
  let address := network.concrete (← network.lookup host port)
  if network.isTaken address then .error (.ofSystem .addressInUse)
  else .ok (address, { network with taken := address :: network.taken })

def release (address : SocketAddress) (network : Network) : Network :=
  { network with taken := network.taken.erase address }

/-- A network on which nobody can be reached and nobody listens. -/
def isolated : Network where
  dial := fun address =>
    ⟨[.answer (.fails (.ofSystem .networkUnreachable))], address, default⟩
  names := [("localhost", "127.0.0.1")]
  taken := []

end Network

end LineEcho
