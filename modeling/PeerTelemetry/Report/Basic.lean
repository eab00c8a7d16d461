import PeerTelemetry.Report.Rtt

/-!
# Reports

A node reports, for each of its peers, the average round-trip time to it and
the number of probes lost on the way. The reports of one node carry its id and
a sequence number, and list the peers in the order the node chose.

The count of peers travels in one byte, so a report has at most 255 of them.
That bound is part of the type: whoever builds a report has to show it, and
`Report.ofPeers` is where a longer list is turned away.
-/

namespace PeerTelemetry

/-- **The record of one peer.** -/
structure PeerStat where
  id : UInt32
  rtt : Rtt
  losses : UInt32
  deriving DecidableEq, Repr

namespace PeerStat

/-- The record of a peer without a round-trip sample. -/
def withoutSample (id losses : UInt32) : PeerStat := ⟨id, Rtt.unknown, losses⟩

/-- Equality of the numbers in two records. -/
def sameValue (a b : PeerStat) : Bool :=
  a.id = b.id && a.rtt.sameValue b.rtt && a.losses = b.losses

end PeerStat

/-- The largest number of peers in one report. -/
def maxPeers : Nat := 255

/-- **A report** of one node. -/
structure Report where
  source : UInt32
  sequence : UInt64
  peers : List PeerStat
  peers_length_le : peers.length ≤ maxPeers
  deriving DecidableEq, Repr

/-- The refusal of a list of peers that one report cannot carry. -/
structure TooManyPeers where
  count : Nat
  deriving DecidableEq, Repr

/-- The wording of the refusal. -/
def TooManyPeers.message (e : TooManyPeers) : String :=
  s!"report carries {e.count} peers, at most 255 fit in a header"

namespace Report

/-- **A report of the given peers**, refused if there are more than 255. -/
def ofPeers (source : UInt32) (sequence : UInt64) (peers : List PeerStat) :
    Except TooManyPeers Report :=
  if h : peers.length ≤ maxPeers then .ok ⟨source, sequence, peers, h⟩
  else .error ⟨peers.length⟩

/-- **Equality of the numbers in two reports**: same source, same sequence
number, and the same records in the same order. It is not reflexive, because a
NaN equals nothing. -/
def sameValue (a b : Report) : Bool :=
  a.source = b.source && a.sequence = b.sequence &&
    a.peers.length = b.peers.length && (a.peers.zip b.peers).all fun (p, q) => p.sameValue q

theorem ofPeers_of_le {source : UInt32} {sequence : UInt64} {peers : List PeerStat}
    (h : peers.length ≤ maxPeers) :
    ofPeers source sequence peers = .ok ⟨source, sequence, peers, h⟩ := by
  simp [ofPeers, h]

theorem ofPeers_of_lt {source : UInt32} {sequence : UInt64} {peers : List PeerStat}
    (h : maxPeers < peers.length) :
    ofPeers source sequence peers = .error ⟨peers.length⟩ := by
  simp [ofPeers, Nat.not_le.mpr h]

end Report

end PeerTelemetry
