import PeerTelemetry.Address.Printer
import PeerTelemetry.Report.Basic

/-!
# The lines of a report

What an operator reads. A report is a headline that names the sequence number,
the node and the address it was received from, then a line per peer, in the
order of the report, then an empty line:

```
[seq=42] from node 7 (10.0.0.3)
  peer  1: avg 10.500 us, loss 0
  peer  2: avg n/a, loss 3

```

A datagram that is no report is one line, which gives its sender and its
length. All of it is made of characters of one byte each.
-/

namespace PeerTelemetry

/-- **The line of one peer**, its id filled up with blanks to two places. -/
def PeerStat.line (p : PeerStat) : List Char :=
  "  peer ".toList ++ (decimal p.id.toNat).leftpad 2 ' ' ++ ": avg ".toList ++ p.rtt.text ++
    ", loss ".toList ++ decimal p.losses.toNat

namespace Report

/-- **The first line of a report.** -/
def headline (r : Report) (sender : IpAddress) : List Char :=
  "[seq=".toList ++ decimal r.sequence.toNat ++ "] from node ".toList ++
    decimal r.source.toNat ++ " (".toList ++ sender.text ++ ")".toList

/-- **The lines of a report**, the empty one at its end included. -/
def lines (r : Report) (sender : IpAddress) : List (List Char) :=
  r.headline sender :: r.peers.map PeerStat.line ++ [[]]

end Report

/-- **The line of a datagram that is no report.** -/
def ignoredLine (sender : IpAddress) (length : Nat) : List Char :=
  "[".toList ++ sender.text ++ "] Ignored packet (len=".toList ++ decimal length ++ ")".toList

end PeerTelemetry
