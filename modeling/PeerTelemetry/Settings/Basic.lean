import PeerTelemetry.Address.Parser
import PeerTelemetry.Host.Failure
import PeerTelemetry.Number.Shortest
import PeerTelemetry.Report.Wire
import PeerTelemetry.Text.Quoted
import PeerTelemetry.Toml.Table

/-!
# Settings of the listener

Where the listener listens, how strict it is, and how large a receive buffer it asks
for. Each setting has a default, so that a listener can be run with none given.
-/

namespace PeerTelemetry

/-- **The settings of a listener.** -/
structure Settings where
  host : String := "0.0.0.0"
  port : UInt16 := 9998
  strict : Bool := false
  /-- The size of the receive buffer; the system's own when not given. -/
  receiveBuffer : Option Nat := none
  deriving DecidableEq, Repr

/-! ## Errors -/

/-- What a setting has to be. -/
inductive Expectation
  | text
  | port
  | truth
  | size
  | settings
  deriving DecidableEq, Repr

/-- The wording for what is expected. -/
def Expectation.message : Expectation → String
  | text => "a string"
  | port => "u16"
  | truth => "a boolean"
  | size => "usize"
  | settings => "struct ListenerConfig"

/-- The wording for what is found. -/
def Toml.Value.description : Toml.Value → String
  | .string text => s!"string {String.ofList (quoted text.toList)}"
  | .integer n => s!"integer `{n}`"
  | .float bits => s!"floating point `{String.ofList (Format.double.text bits.toNat)}`"
  | .boolean b => s!"boolean `{b}`"
  | .datetime _ => "map"
  | .array _ _ => "sequence"
  | .table _ _ => "map"

/-- **Why a value cannot be a setting.** -/
inductive FieldError
  | wrongType (found : Toml.Value) (expected : Expectation)
  | outOfRange (found : Int) (expected : Expectation)

/-- The wording of the error. -/
def FieldError.message : FieldError → String
  | wrongType found expected =>
    s!"invalid type: {found.description}, expected {expected.message}"
  | outOfRange found expected =>
    s!"invalid value: integer `{found}`, expected {expected.message}"

/-- **Why there are no settings to work with.** -/
inductive SettingsError
  /-- The file could not be read. -/
  | unreadable (cause : FileError)
  /-- The text of the file is no document. -/
  | malformed (cause : Toml.Error)
  /-- A setting has a value that it cannot have. -/
  | field (cause : FieldError)
  /-- The host is not an IP address. -/
  | invalidHost (host : String)

/-- The wording of the error. -/
def SettingsError.message : SettingsError → String
  | unreadable cause => s!"IO error: {cause.message}"
  | malformed cause => s!"Parse error: {cause.message}"
  | field cause => s!"Parse error: {cause.message}"
  | invalidHost host => s!"Invalid listen host '{host}'"

/-- The failures behind an error, outermost first. -/
def SettingsError.causes : SettingsError → List String
  | unreadable cause => [cause.message]
  | malformed cause => [cause.message]
  | field cause => [cause.message]
  | invalidHost _ => []

/-! ## What settings mean -/

namespace Settings

/-- **The address to listen on.** -/
def bindAddress (s : Settings) : Except SettingsError SocketAddress :=
  match IpAddress.parse? s.host.toList with
  | some ip => .ok { ip, port := s.port }
  | none => .error (.invalidHost s.host)

/-- The policy to decode with. -/
def policy (s : Settings) : DecodePolicy := if s.strict then .strict else .lenient

end Settings

end PeerTelemetry
