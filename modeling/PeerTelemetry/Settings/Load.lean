import PeerTelemetry.Settings.Basic

/-!
# Loading settings

The settings of a listener are the table `listener` of a configuration file, with a
key for each setting. A key that is not there leaves its setting at the default, a
key that means nothing is passed over, and the first key in the order of the file
whose value cannot be a setting is reported. An array in place of the table gives the
settings by position.

What an operator asks for on the command line goes before what the file says: a host
or a port replaces the one of the file, and strictness once asked for stays.
-/

namespace PeerTelemetry

open Toml (Value Entries)

namespace Settings

/-! ## From a document -/

/-- A setting that is a text. -/
def readText : Value → Except FieldError String
  | .string text => .ok text
  | v => .error (.wrongType v .text)

/-- A setting that is a port. -/
def readPort : Value → Except FieldError UInt16
  | .integer n =>
    if 0 ≤ n ∧ n ≤ 65535 then .ok (UInt16.ofNat n.toNat) else .error (.outOfRange n .port)
  | v => .error (.wrongType v .port)

/-- A setting that is a truth value. -/
def readTruth : Value → Except FieldError Bool
  | .boolean b => .ok b
  | v => .error (.wrongType v .truth)

/-- A setting that is a size. -/
def readSize : Value → Except FieldError Nat
  | .integer n => if 0 ≤ n then .ok n.toNat else .error (.outOfRange n .size)
  | v => .error (.wrongType v .size)

/-- **Sets what a key names**; a key that names nothing sets nothing. -/
def setField (s : Settings) (key : String) (v : Value) : Except FieldError Settings :=
  match key with
  | "host" => (readText v).map fun host => { s with host }
  | "port" => (readPort v).map fun port => { s with port }
  | "strict" => (readTruth v).map fun strict => { s with strict }
  | "recv_buffer_bytes" => (readSize v).map fun size => { s with receiveBuffer := some size }
  | _ => .ok s

/-- **Settings of a table**, entry by entry in the order of the file. -/
def ofEntries (entries : Entries) : Except FieldError Settings :=
  entries.foldlM (fun s (key, v) => s.setField key v) {}

/-- The keys of the settings, in the order in which an array gives them. -/
def fieldNames : List String := ["host", "port", "strict", "recv_buffer_bytes"]

/-- Settings by position. Values beyond the last setting are passed over. -/
def ofItems (items : List Value) : Except FieldError Settings :=
  ofEntries (fieldNames.zip items)

/-- **Settings of a value.** A date passes for a table that has none of the keys. -/
def ofValue : Value → Except FieldError Settings
  | .table _ entries => ofEntries entries
  | .array _ items => ofItems items
  | .datetime _ => .ok {}
  | v => .error (.wrongType v .settings)

/-- Settings of a document; the defaults if it says nothing of a listener. -/
def ofDocument (entries : Entries) : Except FieldError Settings :=
  match entries.lookup "listener" with
  | none => .ok {}
  | some v => ofValue v

/-! ## From a file -/

/-- **Where settings come from**: what reading a file gives, and what reads the document in its
text. -/
structure Source where
  read : String → Except FileError ByteArray
  document : Toml.Reader

/-- The text of a file. -/
def textOf (content : Except FileError ByteArray) : Except FileError String := do
  match String.fromUTF8? (← content) with
  | some text => return text
  | none => throw .notUtf8

/-- **Loads settings** from the file at a path. -/
def load (source : Source) (path : String) : Except SettingsError Settings :=
  match textOf (source.read path) with
  | .error cause => .error (.unreadable cause)
  | .ok text =>
    match source.document text with
    | .error cause => .error (.malformed cause)
    | .ok entries =>
      match ofDocument entries with
      | .ok s => .ok s
      | .error cause => .error (.field cause)

end Settings

/-! ## With what the operator asks for -/

/-- **What an operator may ask of a listener.** -/
structure ListenOptions where
  config : Option String := none
  host : Option String := none
  port : Option UInt16 := none
  strict : Bool := false
  deriving DecidableEq, Repr

/-- Settings with what was asked for in the place of what they say. -/
def Settings.override (s : Settings) (asked : ListenOptions) : Settings :=
  { s with
    host := asked.host.getD s.host
    port := asked.port.getD s.port
    strict := s.strict || asked.strict }

/-- **The settings a listener is run with**: those of the file, if one is named, or the
defaults, with what was asked for in their place. A file that cannot be loaded is an
error whatever else was asked for. -/
def ListenOptions.settings (asked : ListenOptions) (source : Settings.Source) :
    Except SettingsError Settings := do
  let base ← match asked.config with
    | some path => Settings.load source path
    | none => pure {}
  return base.override asked

end PeerTelemetry
