import PeerTelemetry.Report.Text
import PeerTelemetry.Report.Wire

/-!
# What the operator is told

Each datagram leaves one entry in front of the operator: the report it carries,
or the remark that it was ignored. What is shown and what is concluded about the
datagram are settled together, by one look at the bytes.

Entries are written to a stream that may give out at any moment: it has room for
so many bytes and no more, and one of its flushes may fail. A write that does
not fit fills the room that is left and then fails. A flush that fails leaves in
place what was written, and counts as a flush all the same.

An entry is written line by line, the end of each line on its own, and the stream
is flushed behind its last byte, so that the operator sees an entry as soon as it
is complete. The first failure ends the entry.
-/

namespace PeerTelemetry

/-! ## Entries -/

/-- **An entry** for the operator. -/
inductive Entry
  | report (report : Report) (sender : IpAddress)
  | ignored (length : Nat) (sender : IpAddress)
  deriving DecidableEq, Repr

namespace Entry

/-- The lines of an entry. -/
def lines : Entry → List (List Char)
  | report r sender => r.lines sender
  | ignored length sender => [ignoredLine sender length]

/-- **The text of an entry**: its lines, each with the end of its line. -/
def text (e : Entry) : List Char := e.lines.flatMap (· ++ ['\n'])

end Entry

/-- **What became of a datagram.** -/
inductive Outcome
  | reported (sequence : UInt64) (peers : Nat)
  | ignored (reason : RejectReason)
  deriving DecidableEq, Repr

/-- **Examines a datagram**: what the operator is told about it, and what becomes
of it. -/
def examine (policy : DecodePolicy) (payload : List UInt8) (sender : IpAddress) :
    Entry × Outcome :=
  match Report.decode policy payload with
  | .ok r => (.report r sender, .reported r.sequence r.peers.length)
  | .error reason => (.ignored payload.length sender, .ignored reason)

/-! ## The stream -/

/-- **Why the operator's stream failed.** -/
inductive StreamError
  | closed
  | flushFailed
  deriving DecidableEq, Repr

/-- The wording of the failure. -/
def StreamError.message : StreamError → String
  | closed => "operator stream closed"
  | flushFailed => "operator flush failed"

/-- **A stream** to the operator. -/
structure Stream where
  /-- The number of bytes it still takes, if there is an end to them. -/
  room : Option Nat := none
  /-- Which of its flushes fails, counted from one. -/
  failingFlush : Option Nat := none
  /-- The bytes it has taken. -/
  written : List UInt8 := []
  /-- The number of flushes so far. -/
  flushes : Nat := 0
  deriving DecidableEq, Repr

/-- **An action on the stream**, which may fail and leaves the stream as it is by then. -/
abbrev Output := ExceptT StreamError (StateM Stream)

/-- Runs an action from a given state of the stream. -/
def Output.runOn {α : Type} (x : Output α) (s : Stream) : Except StreamError α × Stream := x s

namespace Stream

/-- **Writes bytes**: all of them, or as many as there is room for. -/
def write (bytes : List UInt8) : Output Unit := fun s =>
  match s.room with
  | none => (.ok (), { s with written := s.written ++ bytes })
  | some room =>
    let next :=
      { s with room := some (room - bytes.length), written := s.written ++ bytes.take room }
    (if bytes.length ≤ room then .ok () else .error .closed, next)

/-- **Flushes the stream.** -/
def flush : Output Unit := fun s =>
  let next := { s with flushes := s.flushes + 1 }
  (if s.failingFlush = some next.flushes then .error .flushFailed else .ok (), next)

end Stream

/-- The bytes of a text. -/
def utf8 (text : List Char) : List UInt8 := text.flatMap String.utf8EncodeChar

/-- Writes one line, then the end of it. -/
def writeLine (line : List Char) : Output Unit := do
  Stream.write (utf8 line)
  Stream.write (utf8 ['\n'])

/-- **Shows an entry**: its lines in order, then a flush. -/
def Entry.show (e : Entry) : Output Unit := do
  e.lines.forM writeLine
  Stream.flush

/-- **Shows what a datagram is**, and concludes what became of it. -/
def dispatch (policy : DecodePolicy) (payload : List UInt8) (sender : IpAddress) :
    Output Outcome := do
  let (entry, outcome) := examine policy payload sender
  entry.show
  return outcome

end PeerTelemetry
