import PeerTelemetry.Listener.Run
import PeerTelemetry.Proofs.Offsets

/-!
# The count of peers fits its byte

The header of a report has one byte for the count of its peers, and whatever does not fit into a
byte is cut off without a word: a report of 256 peers would be written as one of none, which is
well-formed. That this never happens is no merit of the encoder. It is told from where reports come
from. There are two ways to one, and each has a bound of its own: a list of peers is counted before
it is made a report (`Report.ofPeers_eq_error_iff`), and **a decoder cannot read more records than a
byte has declared** (`Report.length_peers_of_decode`).

What follows is exact for every report: the byte is the count, the bytes are as many as the count
says, all of them fit into the receive buffer, and they are the same behind whatever is in front of
them (`Report.count_lossless`).
-/

namespace PeerTelemetry

/-- The byte at a place of a datagram is a byte. -/
theorem byteAt_le (p : List UInt8) (n : Nat) : byteAt p n ≤ 255 :=
  Nat.le_of_lt_succ (UInt8.toNat_lt _)

namespace Report

section OfPeers

variable {source : UInt32} {sequence : UInt64} {peers : List PeerStat}

/-- A list of peers is made the report of these peers, if it is not too long. -/
theorem ofPeers_eq_ok_iff {r : Report} :
    ofPeers source sequence peers = .ok r
      ↔ peers.length ≤ maxPeers ∧ r.source = source ∧ r.sequence = sequence ∧ r.peers = peers := by
  constructor
  · intro h
    unfold ofPeers at h
    split at h
    · cases h
      exact ⟨‹_›, rfl, rfl, rfl⟩
    · cases h
  · rintro ⟨h, rfl, rfl, rfl⟩
    exact ofPeers_of_le h

/-- **A list of peers is refused for its length** if it is too long, and for nothing else. -/
theorem ofPeers_eq_error_iff {e : TooManyPeers} :
    ofPeers source sequence peers = .error e ↔ maxPeers < peers.length ∧ e = ⟨peers.length⟩ := by
  constructor
  · intro h
    unfold ofPeers at h
    split at h
    · cases h
    · cases h
      exact ⟨Nat.not_le.mp ‹_›, rfl⟩
  · rintro ⟨h, rfl⟩
    exact ofPeers_of_lt h

end OfPeers

/-- **No more records are read than a byte has declared**, and no fewer than are there. -/
theorem length_peers_of_decode {policy : DecodePolicy} {p : List UInt8} {r : Report}
    (h : decode policy p = .ok r) :
    r.peers.length = min (byteAt p 1) ((p.length - 16) / 12) ∧ r.peers.length ≤ 255 := by
  have hcount := (spelledAt_of_decode_eq_ok h).length_peers_eq
  refine ⟨hcount, ?_⟩
  rw [hcount]
  exact Nat.le_trans (Nat.min_le_left _ _) (byteAt_le p 1)

/-- The second byte of a report is the count of its peers. -/
theorem byteAt_bytes_one (r : Report) : byteAt r.bytes 1 = r.peers.length := by
  rw [bytes_eq_frame, ← toNat_count]
  rfl

/-- A report is appended as its bytes. -/
theorem encodeInto_eq_append_bytes (buffer : List UInt8) (r : Report) :
    encodeInto buffer r = buffer ++ r.bytes := by
  rw [encodeInto_eq, bytes_eq_frame]

/-- **The count in a report is the count of its peers**, wherever the report comes from.

A list of no more than 255 peers is made the report of these peers, and a longer one is refused with
its length. What is decoded from a datagram, under either policy, has as many peers as the
datagram declares, or as there is room for, and that is 255 at most. Of every report the second byte
is the count of the peers, the bytes are 16 and 12 for each peer, and there are never more than
3076 of them, which the receive buffer holds; and behind other bytes the report is written as the
same bytes. -/
theorem count_lossless :
    (∀ (source : UInt32) (sequence : UInt64) (peers : List PeerStat),
      ((∃ r, ofPeers source sequence peers = .ok r
        ∧ r.source = source ∧ r.sequence = sequence ∧ r.peers = peers) ↔ peers.length ≤ 255)
      ∧ ∀ e, ofPeers source sequence peers = .error e
        ↔ 255 < peers.length ∧ e = ⟨peers.length⟩)
    ∧ (∀ (policy : DecodePolicy) (p : List UInt8) (r : Report), decode policy p = .ok r →
      r.peers.length = min (byteAt p 1) ((p.length - 16) / 12) ∧ r.peers.length ≤ 255)
    ∧ ∀ r : Report,
      byteAt r.bytes 1 = r.peers.length
      ∧ r.bytes.length = r.encodedLength
      ∧ r.encodedLength = 16 + 12 * r.peers.length
      ∧ r.encodedLength ≤ 3076 ∧ 3076 ≤ maxDatagram
      ∧ ∀ buffer : List UInt8, encodeInto buffer r = buffer ++ r.bytes := by
  refine ⟨fun source sequence peers => ?_, fun policy p r => length_peers_of_decode, fun r => ?_⟩
  · refine ⟨⟨?_, fun hshort => ⟨_, ofPeers_of_le hshort, rfl, rfl, rfl⟩⟩,
      fun e => ofPeers_eq_error_iff⟩
    rintro ⟨r, hr, -⟩
    exact (ofPeers_eq_ok_iff.mp hr).1
  · exact ⟨r.byteAt_bytes_one, r.length_bytes, r.encodedLength_eq, r.encodedLength_le, by decide,
      fun buffer => r.encodeInto_eq_append_bytes buffer⟩

/-- Peers without a sample. -/
def silentPeers (n : Nat) : List PeerStat := List.replicate n (PeerStat.withoutSample 1 0)

/-- A full list of peers is counted as 255, where one more is refused; and of the datagram that
breaks off, which declares three records, the one that is there is counted. -/
theorem count_lossless_of_full :
    (∃ r, ofPeers 1 1 (silentPeers 255) = .ok r ∧ byteAt r.bytes 1 = 255 ∧ r.bytes.length = 3076)
    ∧ ofPeers 1 1 (silentPeers 256) = .error ⟨256⟩
    ∧ decode .lenient brokenOff = .ok keptOfBrokenOff
    ∧ keptOfBrokenOff.peers.length = min (byteAt brokenOff 1) ((brokenOff.length - 16) / 12) := by
  have hcount : ∀ n, (silentPeers n).length = n := fun n => List.length_replicate
  have hkept : decode .lenient brokenOff = .ok keptOfBrokenOff := rfl
  obtain ⟨hnew, hdecode, hall⟩ := count_lossless
  obtain ⟨r, hr, -, -, hpeers⟩ := (hnew 1 1 (silentPeers 255)).1.mpr (Nat.le_of_eq (hcount 255))
  obtain ⟨hbyte, hlength, hencoded, -⟩ := hall r
  rw [hpeers, hcount] at hbyte hencoded
  have hlong : 255 < (silentPeers 256).length := by
    rw [hcount]
    decide
  exact ⟨⟨r, hr, hbyte, hlength.trans hencoded⟩,
    ((hnew 1 1 (silentPeers 256)).2 _).mpr ⟨hlong, by rw [hcount]⟩, hkept,
    (hdecode _ _ _ hkept).1⟩

end Report

end PeerTelemetry
