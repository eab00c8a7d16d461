import PeerTelemetry.Program
import PeerTelemetry.Toml.Document
import Std.Async.Signal
import Std.Async.UDP

/-!
# The executable

The outer layer of the program: it reads the arguments, the environment and the settings
file, and carries out the task that follows from them on this machine. What is done at each
step is the program's; here it is only carried out: requests are put to a socket, what
an arrival comes to is written to the standard output, notices and last words to the standard
error.

The runtime prepares its sockets itself. It has no way to ask for a receive buffer of a given
size, so a listener that wants one is refused it.
-/

namespace PeerTelemetry.Executable

open Std.Async

/-- The failure behind a number, which some calls report as a negative one. -/
def failureOf (code : UInt32) (details : String) : OsError :=
  .ofCode (if code < 0x80000000 then code else 0 - code).toNat details

/-- The failure of the host behind an exception. -/
def osErrorOf (e : IO.Error) : OsError :=
  match e with
  | .alreadyExists _ code details | .otherError code details | .resourceBusy code details
  | .resourceVanished code details | .unsupportedOperation code details
  | .hardwareFault code details | .unsatisfiedConstraints code details
  | .illegalOperation code details | .protocolError code details | .timeExpired code details
  | .interrupted _ code details | .noFileOrDirectory _ code details
  | .invalidArgument _ code details | .permissionDenied _ code details
  | .resourceExhausted _ code details | .inappropriateType _ code details
  | .noSuchThing _ code details => failureOf code details
  | .unexpectedEof => ⟨0, "unexpected end of file"⟩
  | .userError details => ⟨0, details⟩

/-- The address as the sockets take it. -/
def toNet (a : SocketAddress) : Std.Net.SocketAddress :=
  match a.ip with
  | .v4 ip => .v4 ⟨.ofParts ip.a ip.b ip.c ip.d, a.port⟩
  | .v6 ip => .v6 ⟨⟨⟨ip.groups.toArray, by simp [ip.length_groups]⟩⟩, a.port⟩

/-- The address as the sockets give it. -/
def ofNet : Std.Net.SocketAddress → SocketAddress
  | .v4 a =>
    let o := a.addr.octets
    { ip := .v4 ⟨o[0], o[1], o[2], o[3]⟩, port := a.port }
  | .v6 a => { ip := .v6 ⟨a.addr.segments.toList, by simp⟩, port := a.port }

/-- Logs a notice, if the filter lets it through. -/
def note (filter : LogFilter) (n : Notice) : IO Unit := do
  if filter.admits n then IO.eprintln n.line

/-- The content of a file, or why it cannot be had. -/
def readSettings (path : String) : IO (Except FileError ByteArray) := do
  try return .ok (← IO.FS.readBinFile path)
  catch e => return .error (.os (osErrorOf e))

/-! ## The network -/

/-- Does what may fail. -/
def granted {α : Type} (x : IO α) : IO (Except OsError α) := do
  try return .ok (← x)
  catch e => return .error (osErrorOf e)

/-- The socket of the program, once there is one. -/
abbrev Endpoint := IO.Ref (Option UDP.Socket)

/-- The socket that there is by now. -/
def Endpoint.socket (endpoint : Endpoint) : IO UDP.Socket := do
  match ← endpoint.get with
  | some socket => return socket
  | none => throw (IO.userError "no socket")

/-- **Asks this machine.** A datagram is sent as a whole. -/
def answer (endpoint : Endpoint) : (r : Request) → IO (Except OsError r.Answer)
  | .socket _ => granted do endpoint.set (some (← UDP.Socket.mk))
  | .receiveIpv4 | .nonblocking | .register => return .ok ()
  | .receiveBuffer _ => return .error .notSupported
  | .bind a => granted do (← endpoint.socket).bind (toNet a)
  | .localAddress => granted do return ofNet (← (← endpoint.socket).getSockName)
  | .send target payload => granted do
    let socket ← endpoint.socket
    (socket.send (ByteArray.mk payload.toArray) (some (toNet target))).block
    return payload.length

/-- Holds a dialogue with it. -/
def converse {α : Type} (endpoint : Endpoint) : Dialogue α → IO α
  | .ended result => return result
  | .ask r next => do converse endpoint (next (← answer endpoint r))

/-! ## Listening -/

/-- Puts out what has been shown. -/
def putOut (shown : Stream) : IO (Except Failure Unit) := do
  try
    let output ← IO.getStdout
    output.write (ByteArray.mk shown.written.toArray)
    if 0 < shown.flushes then output.flush
    return .ok ()
  catch e => return .error (.output (osErrorOf e).message)

/-- Does with an arrival what a listener does, and gives the buffer afterwards. -/
def receive (filter : LogFilter) (l : Listener) (buffer : List UInt8) (arrival : Arrival) :
    IO (Except Failure (List UInt8)) := do
  let (result, shown) := (l.receive buffer arrival).runOn {}
  match ← putOut shown with
  | .error cause => return .error cause
  | .ok () =>
    match result with
    | .error e => return .error (.output e.message)
    | .ok (buffer, notice) =>
      note filter notice
      return .ok buffer

/-- A datagram as the sockets give it. -/
def datagramOf (payload : ByteArray) (sender : Option Std.Net.SocketAddress) : Datagram :=
  ⟨payload.toList, (sender.map ofNet).getD { ip := .v4 Ipv4.unspecified, port := 0 }⟩

/-- What wakes a listener. -/
inductive Wake
  | arrival (a : Arrival)
  | signal (s : StopSignal)

/-- Handles what has arrived already. -/
partial def drain (filter : LogFilter) (l : Listener) (socket : UDP.Socket)
    (buffer : List UInt8) : IO (Except Failure Unit) := do
  match ← (socket.recvSelector maxDatagram.toUInt64).tryFn.block with
  | none => return .ok ()
  | some (payload, sender) =>
    match ← receive filter l buffer (.ok (datagramOf payload sender)) with
    | .error cause => return .error cause
    | .ok buffer => drain filter l socket buffer

/-- Handles what arrives until a signal asks to stop, and then what has arrived already. -/
partial def serve (filter : LogFilter) (l : Listener) (socket : UDP.Socket)
    (interrupt terminate : Signal.Waiter) (buffer : List UInt8) :
    IO (Except Failure StopSignal) := do
  let wake ← try
      (Selectable.one #[
        .case (socket.recvSelector maxDatagram.toUInt64) fun (payload, sender) =>
          return Wake.arrival (.ok (datagramOf payload sender)),
        .case interrupt.selector fun _ => return Wake.signal .interrupt,
        .case terminate.selector fun _ => return Wake.signal .terminate]).block
    catch e => pure (Wake.arrival (.error (osErrorOf e)))
  match wake with
  | .arrival a =>
    match ← receive filter l buffer a with
    | .error cause => return .error cause
    | .ok buffer => serve filter l socket interrupt terminate buffer
  | .signal s =>
    match ← drain filter l socket buffer with
    | .error cause => return .error cause
    | .ok () => return .ok s

/-- Runs a listener until it is stopped. -/
def listen (filter : LogFilter) (endpoint : Endpoint) (l : Listener) :
    IO (Except Failure Unit) := do
  let socket ← endpoint.socket
  let interrupt ← Signal.Waiter.mk .sigint false
  let terminate ← Signal.Waiter.mk .sigterm false
  match ← serve filter l socket interrupt terminate emptyBuffer with
  | .error cause => return .error cause
  | .ok s =>
    let stopped := Shutdown.run ⟨[.signalled s], ← answer endpoint .localAddress⟩ {}
    stopped.notices.forM (note filter)
    return stopped.conclusion

/-! ## The program -/

/-- **The stage of the machine.** -/
def stage (filter : LogFilter) (endpoint : Endpoint) : Stage IO where
  print := IO.print
  note := note filter
  converse := converse endpoint
  listen := listen filter endpoint

/-- The content of the settings file that the arguments name. -/
def settingsContent (arguments : List String) : IO (Except FileError ByteArray) := do
  match CommandLine.parse arguments with
  | .ok (some command) =>
    match command.settingsPath? with
    | some path => readSettings path
    | none => return .error (.os .noSuchFile)
  | _ => return .error (.os .noSuchFile)

end PeerTelemetry.Executable

open PeerTelemetry in
/-- The program. -/
def main (arguments : List String) : IO UInt32 := do
  let filter := LogFilter.ofSetting (← IO.getEnv "RUST_LOG")
  let content ← Executable.settingsContent arguments
  let stage := Executable.stage filter (← IO.mkRef none)
  let ending ← (Task.ofArguments ⟨fun _ => content, Toml.read⟩ arguments).perform stage
  IO.eprint ending.lastWords
  return ending.status.toUInt32
