import LineEcho.Echo.Session
import LineEcho.Transfer.Exchange
import LineEcho.Transfer.Report
import LineEcho.Wire.Pipe

/-!
# A client and an echo session joined by two pipes

The client's delivery and draining and the session of the service each go on whenever their request
can be answered, in any order, and every answer may move as few octets as it likes. No limits are
put on any operation, and nothing fails. `Circuit.Step` is one such answer.
-/

namespace LineEcho

/-- A transfer under way: what of the file has not been fetched, the parties, and the pipes from the
client to the service and back. -/
structure Circuit where
  unread : Bytes
  delivery : Delivery
  draining : Draining
  session : Session
  forth : Pipe
  back : Pipe

namespace Circuit

/-- What a circuit is set up with. There is room for one octet at least in the buffer of the file
and in the pipes. -/
structure Setup where
  content : Bytes
  capacity : Nat
  endings : LineEndings
  capture : Bool
  bufferSize : Nat
  roomForth : Nat
  roomBack : Nat
  capacity_pos : 0 < capacity := by decide
  roomForth_pos : 0 < roomForth := by decide
  roomBack_pos : 0 < roomBack := by decide
  deriving DecidableEq, Repr

/-- A circuit in which nothing has happened yet. -/
def start (setup : Setup) : Circuit where
  unread := setup.content
  delivery := .start 0 (.start setup.capacity setup.endings) none
  draining := .start 0 none (.empty setup.capture)
  session := (Session.start ⟨setup.bufferSize, none, none⟩).read 0
  forth := .ofRoom setup.roomForth
  back := .ofRoom setup.roomBack

/-- The circuit once the delivery has been answered. -/
def deliver (answer : Answer) (circuit : Circuit) : Circuit :=
  { circuit with delivery := circuit.delivery.resume 0 answer }

/-- The circuit once the draining has been answered. -/
def drain (answer : Answer) (circuit : Circuit) : Circuit :=
  { circuit with draining := circuit.draining.resume 0 answer }

/-- The circuit once the session has been answered. -/
def echo (answer : Answer) (circuit : Circuit) : Circuit :=
  { circuit with session := circuit.session.resume 0 answer }

/-- One answer to one of the parties. -/
inductive Step (circuit : Circuit) : Circuit → Prop where
  | fetch {space : Nat} (count : Nat) (asks : circuit.delivery.request = some (.fetch space))
      (moves : 0 < count) (asked : count ≤ space) (there : count ≤ circuit.unread.length) :
      Step circuit
        { circuit.deliver (.received (circuit.unread.take count)) with
          unread := circuit.unread.drop count }
  | fetchEnd {space : Nat} (asks : circuit.delivery.request = some (.fetch space))
      (nothing : circuit.unread = []) : Step circuit (circuit.deliver (.received []))
  | write {octets : Bytes} {answer : Answer} {forth : Pipe}
      (asks : circuit.delivery.request = some (.write octets))
      (writes : circuit.forth.Writes octets answer forth) :
      Step circuit { circuit.deliver answer with forth := forth }
  | flush (asks : circuit.delivery.request = some .flush) :
      Step circuit (circuit.deliver .completed)
  | shutForth (asks : circuit.delivery.request = some .shutdown) :
      Step circuit { circuit.deliver .completed with forth := circuit.forth.shut }
  | drain {space : Nat} {answer : Answer} {back : Pipe}
      (asks : circuit.draining.request = some (.read space))
      (reads : circuit.back.Reads space answer back) :
      Step circuit { circuit.drain answer with back := back }
  | echoRead {space : Nat} {answer : Answer} {forth : Pipe}
      (asks : circuit.session.request = some (.read space))
      (reads : circuit.forth.Reads space answer forth) :
      Step circuit { circuit.echo answer with forth := forth }
  | echoWrite {octets : Bytes} {answer : Answer} {back : Pipe}
      (asks : circuit.session.request = some (.write octets))
      (writes : circuit.back.Writes octets answer back) :
      Step circuit { circuit.echo answer with back := back }
  | shutBack (asks : circuit.session.request = some .shutdown) :
      Step circuit { circuit.echo .completed with back := circuit.back.shut }

/-- The circuits that come of others by some steps. -/
inductive Reaches (first : Circuit) : Circuit → Prop where
  | refl : Reaches first first
  | step {middle last : Circuit} (reaches : Reaches first middle) (next : Step middle last) :
      Reaches first last

/-- The outcome of the transfer: none as long as the delivery or the draining goes on. -/
def outcome? (circuit : Circuit) : Option (Except Error (SendCounts × Receipt)) :=
  match circuit.delivery.result?, circuit.draining.result with
  | some (.error error), _ => some (.error error)
  | _, some (.error fault) => some (.error (Exchange.echoError fault))
  | some (.ok counts), some (.ok ()) => some (.ok (counts, circuit.draining.receipt))
  | _, _ => none

/-- The report on the transfer, once it is over. -/
def report? (file remote : String) (elapsedMicros : Nat) (circuit : Circuit) :
    Option (Except Error TransferReport) :=
  circuit.outcome?.map fun outcome =>
    outcome.map fun (counts, receipt) => .of file remote counts receipt elapsedMicros

end Circuit

end LineEcho
