import PeerTelemetry.Host.Directory
import PeerTelemetry.Main
import PeerTelemetry.Proofs.Policies
import PeerTelemetry.Proofs.RoundTrip
import PeerTelemetry.Proofs.OperatorStream
import PeerTelemetry.Proofs.ListenerRun
import PeerTelemetry.Proofs.Truncation
import PeerTelemetry.Proofs.EndToEnd
import PeerTelemetry.Proofs.LineParts
import PeerTelemetry.Proofs.OperatorCalls
import PeerTelemetry.Proofs.UniqueReading
import PeerTelemetry.Proofs.Binades
import PeerTelemetry.Proofs.CallResults
import PeerTelemetry.Proofs.DecimalReading
import PeerTelemetry.Proofs.Offsets
import PeerTelemetry.Proofs.ReceiveBuffer
import PeerTelemetry.Proofs.ShownPeers
import PeerTelemetry.Proofs.Faults
import PeerTelemetry.Proofs.Outcomes
import PeerTelemetry.Proofs.PeerCount
import PeerTelemetry.Proofs.ShownTimes
import PeerTelemetry.Proofs.PeerGrammar
import PeerTelemetry.Proofs.SameNumbers
import PeerTelemetry.Proofs.EffectiveSettings
import PeerTelemetry.Proofs.SettingsFields
import PeerTelemetry.Proofs.AddressReading
import PeerTelemetry.Proofs.ShownSenders
import PeerTelemetry.Proofs.HeaderReading
