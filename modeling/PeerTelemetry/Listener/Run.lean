import PeerTelemetry.Failure
import PeerTelemetry.Host.Network
import PeerTelemetry.Log.Notice
import PeerTelemetry.Operator.Stream

/-!
# The run of a listener

A listener receives datagrams one at a time, shows each to the operator before it
receives the next, and notes what became of it, until it is asked to stop. A datagram
that is no report does not end the run, and neither does the failure to receive one, which is
noted; only the failure of the operator's stream does, and then nothing of a later datagram is
shown.

All datagrams are received into one buffer, which keeps what earlier ones left in it
behind the last byte of a shorter one. A datagram longer than the buffer is cut.
-/

namespace PeerTelemetry

/-- The size of the receive buffer, and so the longest datagram that is seen whole. -/
def maxDatagram : Nat := 4096

/-- **A datagram** on its way to a listener. -/
structure Datagram where
  payload : List UInt8
  sender : SocketAddress
  deriving DecidableEq, Repr

/-- **What comes of receiving**: a datagram, or the failure to receive one. -/
abbrev Arrival := Except OsError Datagram

/-- A buffer without anything received in it. -/
def emptyBuffer : List UInt8 := List.replicate maxDatagram 0

/-- **Receives into a buffer**: the buffer afterwards, and the number of bytes received. -/
def receiveInto (buffer payload : List UInt8) : List UInt8 × Nat :=
  let kept := payload.take buffer.length
  (kept ++ buffer.drop kept.length, kept.length)

/-- **A listener** at its address. -/
structure Listener where
  address : SocketAddress
  policy : DecodePolicy
  deriving DecidableEq, Repr

/-- **How a listener is stopped.** -/
structure Shutdown where
  /-- What is noted of the request to stop. -/
  notices : List Notice
  /-- What the listener learns of its address as it stops. -/
  address : Except OsError SocketAddress

/-- **What a run leaves.** -/
structure Run where
  /-- Whether it ended as it was asked to. -/
  conclusion : Except Failure Unit
  stream : Stream
  notices : List Notice
  /-- What was asked of the network, other than datagrams. -/
  requests : List Request

/-- The end of a run, which notes where the listener was. -/
def Shutdown.run (stop : Shutdown) (stream : Stream) : Run :=
  match stop.address with
  | .ok address => ⟨.ok (), stream, stop.notices ++ [.stopping address], [.localAddress]⟩
  | .error cause => ⟨.error (.socket cause), stream, stop.notices, [.localAddress]⟩

namespace Listener

/-- **What a listener does with an arrival**: a datagram is shown, and what became of it is
noted; that none could be received is only noted. The buffer comes with the notice. -/
def receive (l : Listener) (buffer : List UInt8) : Arrival → Output (List UInt8 × Notice)
  | .error cause => return (buffer, .receiveFailed cause.message)
  | .ok d => do
    let (buffer, length) := receiveInto buffer d.payload
    let outcome ← dispatch l.policy (buffer.take length) d.sender.ip
    return (buffer, .received d.sender outcome)

/-- A run from a given state of the buffer and the stream. -/
def runFrom (l : Listener) (stop : Shutdown) (buffer : List UInt8) (stream : Stream) :
    List Arrival → Run
  | [] => stop.run stream
  | a :: rest =>
    match (l.receive buffer a).runOn stream with
    | (.error e, stream) => ⟨.error (.output e.message), stream, [], []⟩
    | (.ok (buffer, notice), stream) =>
      let run := l.runFrom stop buffer stream rest
      { run with notices := notice :: run.notices }

/-- **The run of a listener** over what arrives before it is stopped. -/
def run (l : Listener) (stop : Shutdown) (stream : Stream) (arrivals : List Arrival) : Run :=
  l.runFrom stop emptyBuffer stream arrivals

end Listener

end PeerTelemetry
