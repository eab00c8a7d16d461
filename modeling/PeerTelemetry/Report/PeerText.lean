import PeerTelemetry.Number.FloatLiteral
import PeerTelemetry.Number.Integer
import PeerTelemetry.Report.Basic

/-!
# Peer records as text

An operator who sends a report by hand writes each record as `ID:RTT:LOSS`, where
the round-trip time is a float literal or `n/a` for "no sample". When several
fields are wrong, the id is blamed before the losses, and both before the
round-trip time.
-/

namespace PeerTelemetry

/-- **Why a text is not a peer record.** Each error names what it blames. -/
inductive PeerTextError
  /-- The fields are not three. -/
  | shape (text : List Char)
  | id (field : List Char) (cause : IntegerError)
  | losses (field : List Char) (cause : IntegerError)
  | rtt (field : List Char)
  deriving DecidableEq, Repr

/-- The wording for a round-trip time that is no float literal. -/
def floatMessage (field : List Char) : String :=
  if field = [] then "cannot parse float from empty string" else "invalid float literal"

/-- The wording of the error. -/
def PeerTextError.message : PeerTextError → String
  | shape text => s!"expected ID:RTT_US:LOSS, got '{String.ofList text}'"
  | id field cause => s!"bad peer id '{String.ofList field}': {cause.message}"
  | losses field cause => s!"bad loss count '{String.ofList field}': {cause.message}"
  | rtt field => s!"bad rtt '{String.ofList field}': {floatMessage field}"

/-- A 32-bit integer, or the error that blames it. -/
def readWord32 (blame : IntegerError → PeerTextError) (field : List Char) :
    Except PeerTextError UInt32 :=
  match readNat 4294967295 field with
  | .ok n => .ok (UInt32.ofNat n)
  | .error cause => .error (blame cause)

/-- The round-trip time a field denotes, if it denotes one. -/
def Rtt.read? (field : List Char) : Option Rtt :=
  if field.map Char.toLower = Rtt.unavailable then some Rtt.unknown
  else (FloatLiteral.read field).map fun literal =>
    ⟨UInt32.ofNat (literal.pattern Format.single)⟩

/-- **Reads a peer record.** -/
def PeerStat.parse (text : List Char) : Except PeerTextError PeerStat :=
  match text.splitOn ':' with
  | [id, rtt, losses] => do
    let id ← readWord32 (.id id) id
    let losses ← readWord32 (.losses losses) losses
    match Rtt.read? rtt with
    | some rtt => return ⟨id, rtt, losses⟩
    | none => throw (.rtt rtt)
  | _ => .error (.shape text)

end PeerTelemetry
