import PeerTelemetry.CommandLine.Help
import PeerTelemetry.Listener.Run
import PeerTelemetry.Log.Filter

/-!
# The program

From a command line to what the program does. The command line and the settings file
decide on a `Task`: the program is done already, or it listens, or it sends a report.

How a task is carried out is written once, for any `Stage` that can print, note, hold a
dialogue with the network and run a listener. On a `Host`, whose network and arrivals are given,
that leaves a `Transcript`, in which there is also what the network was asked for.
-/

namespace PeerTelemetry

/-! ## Validating, listening, sending -/

/-- The settings of a file and the address they name. -/
def resolve (source : Settings.Source) (path : String) :
    Except SettingsError (Settings × SocketAddress) := do
  let s ← Settings.load source path
  return (s, ← s.bindAddress)

/-- **Validates a settings file**, and notes what it says or what is wrong with it. -/
def validate (source : Settings.Source) (path : String) : Except Failure Unit × List Notice :=
  match resolve source path with
  | .ok (s, address) =>
    (.ok (), [.settingsValid path, .settingsAddress address, .settingsStrictness s.strict])
  | .error e => (.error .invalidSettings, [.settingsInvalid path e])

namespace Listener

/-- **What prepares a socket to listen** at an address. At an IPv6 address it also receives from
IPv4 senders, and a receive buffer is asked for only if its size is set. -/
def preparations (receiveBuffer : Option Nat) (a : SocketAddress) : List Request :=
  .socket a.ip.isV6 :: (if a.ip.isV6 then [.receiveIpv4] else [])
    ++ (receiveBuffer.map Request.receiveBuffer).toList ++ [.bind a, .nonblocking, .register]

/-- The failure that it is when one of them is refused. -/
def failureOf : Request → OsError → Failure
  | .receiveBuffer size => .receiveBuffer size
  | .bind a => .bind a
  | _ => .socket

/-- **Opens a listener** on the address its settings name. -/
def bind (s : Settings) : ExceptT Failure Dialogue Listener :=
  match s.bindAddress with
  | .error e => throw (.settings e)
  | .ok wanted => do
    Dialogue.demandAll failureOf (preparations s.receiveBuffer wanted)
    let address ← Dialogue.demand .localAddress .socket
    return ⟨address, s.policy⟩

end Listener

/-- **What prepares a socket to send** to a target: an address of the same family, with a port
that the host chooses. -/
def SocketAddress.preparations (target : SocketAddress) : List Request :=
  [.socket target.ip.isV6, .bind { ip := target.ip.unspecifiedLike, port := 0 }, .register]

/-- **Sends a report** as a single datagram, and gives the number of bytes that were sent. -/
def Report.send (target : SocketAddress) (r : Report) : ExceptT Failure Dialogue Nat := do
  Dialogue.demandAll (fun _ => .socket) target.preparations
  Dialogue.demand (.send target r.bytes) (.send target)

/-! ## Tasks -/

/-- **How the program ends.** -/
inductive Ending
  | success
  | failure (cause : Failure)
  | misuse (error : CommandLine.UsageError)

/-- The exit status. -/
def Ending.status : Ending → UInt8
  | success => 0
  | failure _ => 1
  | misuse _ => 2

/-- What the program says of its ending, to the end of the last line. -/
def Ending.lastWords : Ending → String
  | success => ""
  | failure cause => cause.lastWords
  | misuse error => String.ofList error.text

/-- **What there is to do.** -/
inductive Task
  /-- Nothing more: the text to print, what to note, and how the program ends. -/
  | finish (text : String) (notices : List Notice) (ending : Ending)
  | listen (settings : Settings)
  | send (target : SocketAddress) (report : Report)

namespace Task

/-- The task of a failure. -/
def fail (cause : Failure) : Task := .finish "" [] (.failure cause)

/-- The task of a listener that was asked for. -/
def ofListen (source : Settings.Source) (asked : ListenOptions) : Task :=
  match asked.settings source with
  | .ok s => .listen s
  | .error e => fail (.settings e)

/-- The task of a command. Without a command there is a listener to run with the default
settings. -/
def ofCommand (source : Settings.Source) : Option CommandLine.Command → Task
  | none => ofListen source {}
  | some (.listen asked) => ofListen source asked
  | some (.validate path) =>
    match validate source path with
    | (.ok (), notices) => .finish "" notices .success
    | (.error cause, notices) => .finish "" notices (.failure cause)
  | some (.send target id sequence peers) =>
    match Report.ofPeers id sequence peers with
    | .ok r => .send target r
    | .error e => fail (.report e)

/-- **The task of a command line**, with the files it may name. -/
def ofArguments (source : Settings.Source) (arguments : List String) : Task :=
  match CommandLine.parse arguments with
  | .ok command => ofCommand source command
  | .error (.help topic) => .finish topic.page [] .success
  | .error .version => .finish CommandLine.versionText [] .success
  | .error (.usage e) => .finish "" [] (.misuse e)

end Task

/-! ## Carrying out -/

/-- **What a task is carried out with.** -/
structure Stage (m : Type → Type) where
  print : String → m Unit
  note : Notice → m Unit
  converse : {α : Type} → Dialogue α → m α
  /-- Runs a listener until it is stopped. -/
  listen : Listener → m (Except Failure Unit)

/-- **Carries out a task.** -/
def Task.perform {m : Type → Type} [Monad m] (stage : Stage m) : Task → m Ending
  | finish text notices ending => do
    stage.print text
    notices.forM stage.note
    return ending
  | listen s => do
    match ← stage.converse (Listener.bind s).run with
    | .error cause => return .failure cause
    | .ok l =>
      stage.note (.listening l.address)
      match ← stage.listen l with
      | .error cause => return .failure cause
      | .ok () =>
        stage.note .interrupted
        return .success
  | send target r => do
    match ← stage.converse (r.send target).run with
    | .error cause => return .failure cause
    | .ok count =>
      stage.note (.sent r.sequence r.peers.length count target)
      return .success

/-! ## On a host -/

/-- **A host** as the program meets it. -/
structure Host where
  network : Network
  source : Settings.Source
  /-- What reaches a listener before it is asked to stop. -/
  arrivals : List Arrival
  /-- What asks it to stop. -/
  signal : StopSignal

/-- **What has been done**: what was put out, what was noted, and what was asked of the
network. -/
structure Record where
  output : Stream
  notices : List Notice := []
  requests : List Request := []

/-- **What a run of the program leaves.** -/
structure Transcript extends Record where
  ending : Ending

/-- The datagrams that were handed to the network, with where they were to go. -/
def Record.datagrams (t : Record) : List (SocketAddress × List UInt8) :=
  t.requests.filterMap Request.datagram?

namespace Host

/-- The stage of a host, on which all that is done is recorded. -/
def stage (host : Host) : Stage (StateM Record) where
  print text := modify fun t =>
    { t with output := { t.output with written := t.output.written ++ utf8 text.toList } }
  note n := modify fun t => { t with notices := t.notices ++ [n] }
  converse d := fun t =>
    let (result, requests) := d.hold host.network t.requests
    (result, { t with requests := t.requests ++ requests })
  listen l := fun t =>
    let stop := ⟨[.signalled host.signal], host.network.answer t.requests .localAddress⟩
    let run := l.run stop t.output host.arrivals
    (run.conclusion, ⟨run.stream, t.notices ++ run.notices, t.requests ++ run.requests⟩)

/-- **Runs a task** on a host. -/
def run (host : Host) (output : Stream) (task : Task) : Transcript :=
  let (ending, record) := (task.perform host.stage).run { output }
  { record with ending }

/-- **Runs the program** on a host with a command. -/
def perform (host : Host) (output : Stream) (command : CommandLine.Command) : Transcript :=
  host.run output (Task.ofCommand host.source (some command))

end Host

end PeerTelemetry
