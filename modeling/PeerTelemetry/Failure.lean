import PeerTelemetry.Address.Printer
import PeerTelemetry.Settings.Basic

/-!
# Failures of the program

What ends a run of the program other than well, and what it says of it: the failure itself, and
those behind it.
-/

namespace PeerTelemetry

/-- **Why the program fails.** -/
inductive Failure
  /-- There are no settings to listen with. -/
  | settings (error : SettingsError)
  /-- The settings that were to be validated are not in order. -/
  | invalidSettings
  /-- There is no socket, or it cannot be prepared. -/
  | socket (cause : OsError)
  /-- The socket cannot have the receive buffer that was asked for. -/
  | receiveBuffer (size : Nat) (cause : OsError)
  /-- The address to listen on cannot be taken. -/
  | bind (address : SocketAddress) (cause : OsError)
  /-- The operator's stream is gone. -/
  | output (reason : String)
  /-- The report has too many peers. -/
  | report (error : TooManyPeers)
  /-- The report cannot be sent. -/
  | send (target : SocketAddress) (cause : OsError)

namespace Failure

/-- The wording of a failure. -/
def message : Failure → String
  | settings error => error.message
  | invalidSettings => "Invalid config"
  | socket cause => cause.message
  | receiveBuffer size _ => s!"failed to set receive buffer to {size} bytes"
  | bind address _ => s!"failed to bind UDP endpoint on {address}"
  | output _ => "failed to write to operator output"
  | report error => error.message
  | send target _ => s!"failed to send report to {target}"

/-- The failures behind a failure, outermost first. -/
def causes : Failure → List String
  | settings error => error.causes
  | invalidSettings | report _ | socket _ => []
  | receiveBuffer _ cause | bind _ cause | send _ cause => [cause.message]
  | output reason => [reason]

/-- A failure with those behind it, on one line. -/
def chain (f : Failure) : String := ": ".intercalate (f.message :: f.causes)

/-- The last words of the program, over several lines. -/
def lastWords (f : Failure) : String :=
  let behind := match f.causes with
    | [] => ""
    | [cause] => s!"\n\nCaused by:\n    {cause}"
    | causes =>
      let numbered := causes.zipIdx.map fun (p : String × Nat) => s!"\n    {p.2}: {p.1}"
      "\n\nCaused by:" ++ String.join numbered
  s!"Error: {f.message}{behind}\n"

end Failure

end PeerTelemetry
