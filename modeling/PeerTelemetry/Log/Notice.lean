import PeerTelemetry.Address.Printer
import PeerTelemetry.Operator.Stream
import PeerTelemetry.Settings.Basic
import PeerTelemetry.Text.Control

/-!
# Notices

What the program logs. A notice is a fact about the run, and its severity, its source and
its wording follow from what it says.
-/

namespace PeerTelemetry

/-- **How much a notice matters**, most first. -/
inductive Severity
  | error
  | warn
  | info
  | debug
  | trace
  deriving DecidableEq, Repr

namespace Severity

/-- The rank of a severity; the more it matters, the lower. -/
def rank : Severity → Nat
  | error => 1
  | warn => 2
  | info => 3
  | debug => 4
  | trace => 5

/-- The label of a severity in the log. -/
def label : Severity → String
  | error => "ERROR"
  | warn => "WARN"
  | info => "INFO"
  | debug => "DEBUG"
  | trace => "TRACE"

end Severity

/-- A signal that ends a listener. -/
inductive StopSignal
  | interrupt
  | terminate
  deriving DecidableEq, Repr

/-- The name of a signal. -/
def StopSignal.name : StopSignal → String
  | interrupt => "SIGINT"
  | terminate => "SIGTERM"

/-- **A notice.** -/
inductive Notice
  /-- A settings file is in order. -/
  | settingsValid (path : String)
  /-- The address that valid settings name. -/
  | settingsAddress (address : SocketAddress)
  /-- The strictness that valid settings ask for. -/
  | settingsStrictness (strict : Bool)
  /-- A settings file is not in order. -/
  | settingsInvalid (path : String) (error : SettingsError)
  /-- A listener begins. -/
  | listening (address : SocketAddress)
  /-- What became of a datagram. -/
  | received (sender : SocketAddress) (outcome : Outcome)
  /-- A datagram could not be received. -/
  | receiveFailed (reason : String)
  /-- A signal asks the listener to stop. -/
  | signalled (signal : StopSignal)
  /-- A listener stops. -/
  | stopping (address : SocketAddress)
  /-- The program ends because it was asked to. -/
  | interrupted
  /-- A report went out. -/
  | sent (sequence : UInt64) (peers : Nat) (bytes : Nat) (target : SocketAddress)

namespace Notice

/-- The severity of a notice. -/
def severity : Notice → Severity
  | settingsInvalid _ _ => .error
  | receiveFailed _ => .warn
  | received _ _ => .debug
  | _ => .info

/-- The part of the program that a notice comes from: the listener, or the program
around it. -/
def source : Notice → String
  | received _ _ | receiveFailed _ | stopping _ => "sense_stats::transport"
  | _ => "sense_stats"

/-- The wording of a notice. -/
def message : Notice → String
  | settingsValid path => s!"Configuration '{path}' is valid."
  | settingsAddress address => s!"Listen: {address}"
  | settingsStrictness strict => s!"Strict peer count: {strict}"
  | settingsInvalid path error => s!"Configuration '{path}' is INVALID: {error.message}"
  | listening address => s!"Listening for Sense stats on {address} ..."
  | received sender (.reported sequence peers) =>
    s!"Report seq={sequence.toNat} from {sender} with {peers} peers"
  | received sender (.ignored reason) => s!"Ignored datagram from {sender}: {reason.message}"
  | receiveFailed reason => s!"Receive error: {reason}"
  | signalled signal => s!"Received {signal.name}, shutting down..."
  | stopping address => s!"Stopping listener on {address}"
  | interrupted => "Interrupted, exiting."
  | sent sequence peers bytes target =>
    s!"Sent report seq={sequence.toNat} ({peers} peers, {bytes} bytes) to {target}"

/-- The wording of a notice as it stands in the log, where it gives no orders to a terminal. -/
def text (n : Notice) : String := String.ofList (escapedControls n.message.toList)

/-- **The line of a notice** in the log. -/
def line (n : Notice) : String := s!"{n.severity.label} {n.source}: {n.text}"

end Notice

end PeerTelemetry
