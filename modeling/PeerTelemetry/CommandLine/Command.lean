import PeerTelemetry.CommandLine.Option
import PeerTelemetry.Report.PeerText
import PeerTelemetry.Settings.Load

/-!
# Commands

The three commands of the program, with their options, and how a command line is read
into one of them. A command line without a command stands for a listener with the
default settings, which is not the same as naming the command.
-/

namespace PeerTelemetry.CommandLine

/-! ## Values of options -/

/-- A text, as it is. -/
def textValue (value : String) : Except String String := .ok value

/-- An integer up to a bound. Integers out of the bounds are read first, and refused with
the number they are. -/
def boundedValue (bound : Nat) (value : String) : Except String Nat :=
  match readInt64 value.toList with
  | .error e => .error e.message
  | .ok n =>
    if 0 ≤ n ∧ n ≤ bound then .ok n.toNat else .error s!"{n} is not in 0..={bound}"

/-- A 16-bit integer. -/
def word16Value (value : String) : Except String UInt16 :=
  (boundedValue 65535 value).map UInt16.ofNat

/-- A 32-bit integer. -/
def word32Value (value : String) : Except String UInt32 :=
  (boundedValue 4294967295 value).map UInt32.ofNat

/-- A 64-bit integer. -/
def word64Value (value : String) : Except String UInt64 :=
  match readNat 18446744073709551615 value.toList with
  | .ok n => .ok (UInt64.ofNat n)
  | .error e => .error e.message

/-- A socket address. -/
def addressValue (value : String) : Except String SocketAddress :=
  match SocketAddress.parse? value.toList with
  | some a => .ok a
  | none => .error SocketAddress.syntaxMessage

/-- A peer record. -/
def peerValue (value : String) : Except String PeerStat :=
  match PeerStat.parse value.toList with
  | .ok p => .ok p
  | .error e => .error e.message

/-- Stores a value that was read. -/
def storing {α δ : Type} (read : String → Except String α) (set : α → δ → δ) (value : String)
    (draft : δ) : Except String δ :=
  (read value).map fun a => set a draft

/-! ## The commands -/

/-- The option that asks for help. -/
def helpOption {δ : Type} (topic : Topic) : OptionSpec δ where
  long := "help"
  short := some 'h'
  about := "Print help"
  action := .halt (.help topic)

/-- **To listen** for reports and print them. -/
def listenSpec : CommandSpec ListenOptions where
  topic := .listen
  name := "listen"
  about := "Listen for stats reports and print them"
  start := {}
  options := [
    { long := "config"
      short := some 'c'
      about := "Path to an optional configuration file"
      action := .value "CONFIG" (storing textValue fun config o => { o with config }) },
    { long := "host"
      about := "IP/interface to bind (default: 0.0.0.0)"
      action := .value "HOST" (storing textValue fun host o => { o with host }) },
    { long := "port"
      short := some 'p'
      about := "UDP port to bind (default: 9998)"
      action := .value "PORT" (storing word16Value fun port o => { o with port }) },
    { long := "strict"
      about := "Reject reports whose peer list does not match the declared count"
      action := .flag fun o => { o with strict := true } },
    helpOption .listen]

/-- The settings file that is validated when none is named. -/
def standardPath : String := "sense-stats.toml"

/-- **To validate** a settings file, given by its path. -/
def validateSpec : CommandSpec String where
  topic := .validate
  name := "validate"
  about := "Validate configuration file"
  start := standardPath
  options := [
    { long := "config"
      short := some 'c'
      about := s!"Path to the configuration file [default: {standardPath}]"
      action := .value "CONFIG" (storing textValue fun path _ => path) },
    helpOption .validate]

/-- What a report that is sent by hand says, as far as it has been given. -/
structure SendDraft where
  target : Option SocketAddress := none
  source : UInt32 := 1
  sequence : UInt64 := 0
  peers : List PeerStat := []

/-- **To send** one report. -/
def sendSpec : CommandSpec SendDraft where
  topic := .send
  name := "send"
  about := "Encode one stats report and send it as a single datagram"
  start := {}
  options := [
    { long := "target"
      short := some 't'
      about := "Listener address, e.g. 127.0.0.1:9998"
      required := true
      action := .value "TARGET" (storing addressValue fun target d => { d with target }) },
    { long := "src-id"
      about := "Reporting node id [default: 1]"
      action := .value "SRC_ID" (storing word32Value fun source d => { d with source }) },
    { long := "seq"
      about := "Sequence number [default: 0]"
      action := .value "SEQ" (storing word64Value fun sequence d => { d with sequence }) },
    { long := "peer"
      about := "Peer record as ID:RTT_US:LOSS (RTT_US may be \"n/a\"); repeatable"
      action := .values "PEERS"
        (storing peerValue fun peer d => { d with peers := d.peers ++ [peer] }) },
    helpOption .send]

/-- **A command.** -/
inductive Command
  | listen (options : ListenOptions)
  | validate (path : String)
  | send (target : SocketAddress) (source : UInt32) (sequence : UInt64) (peers : List PeerStat)
  deriving DecidableEq, Repr

/-- The settings file that a command names. -/
def Command.settingsPath? : Command → Option String
  | listen options => options.config
  | validate path => some path
  | send _ _ _ _ => none

/-- The topic of the help on a command, by its name. -/
def topic? (name : String) : Option Topic :=
  if name = listenSpec.name then some .listen
  else if name = validateSpec.name then some .validate
  else if name = sendSpec.name then some .send
  else if name = "help" then some .help
  else none

/-- What the help command is asked about: nothing but the name of one command. -/
def readHelp : List String → Halt
  | [] => .help .program
  | name :: rest =>
    match topic? name, rest with
    | none, _ => .usage (.unknownCommand name)
    | some topic, [] => .help topic
    | some _, extra :: _ => .usage (.unknownCommand extra)

/-- The options in front of a command. They all end the reading. -/
def programOptions : List (OptionSpec Unit) := [
  helpOption .program,
  { long := "version"
    short := some 'V'
    about := "Print version"
    action := .halt .version }]

/-- Reads the arguments of a command that has been named. -/
def readCommand (topic : Topic) (arguments : List String) : Except Halt (Option Command) :=
  match topic with
  | .listen => do return some (.listen (← listenSpec.read arguments))
  | .validate => do return some (.validate (← validateSpec.read arguments))
  | .send => do
    let d ← sendSpec.read arguments
    match d.target with
    | some target => return some (.send target d.source d.sequence d.peers)
    | none => throw (.usage (.missingOption "--target <TARGET>"))
  | .help | .program => .error (readHelp arguments)

/-- **Reads a command line.** -/
def parse : List String → Except Halt (Option Command)
  | [] => .ok none
  | argument :: rest =>
    match topic? argument with
    | some topic => readCommand topic rest
    | none =>
      match argument.toList with
      | ['-', '-'] =>
        match rest with
        | [] => .ok none
        | extra :: _ =>
          if (topic? extra).isSome then .error (.usage (.unknownArgument extra))
          else .error (.usage (.unknownCommand extra))
      | '-' :: '-' :: text => do
        let _ ← Progress.longOption programOptions { draft := () } text
        parse rest
      | '-' :: c :: text => do
        let _ ← Progress.shortOptions programOptions { draft := () } (c :: text)
        parse rest
      | _ => .error (.usage (.unknownCommand argument))

end PeerTelemetry.CommandLine
