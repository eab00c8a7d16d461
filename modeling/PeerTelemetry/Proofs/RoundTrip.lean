import Mathlib.Logic.ExistsUnique
import PeerTelemetry.Proofs.Layout

/-!
# Reports and their bytes

A report can be read back from its bytes, and the bytes can be read back from a
report. The two directions are not alike. Writing and then reading loses
nothing, whatever the bits of the round-trip times, and bytes behind the report
are noticed by the strict decoder alone (`decode_bytes_append`). Reading and
then writing forgets what the lenient decoder forgave: the bytes it returns
are the **canonical form** of the datagram, with the count of the records that
were kept, nothing in the reserved places and nothing behind
(`decode_canonical`). The strict decoder forgives the reserved places only, so what it
accepts are the bytes of reports with anything in those two.
-/

namespace PeerTelemetry

namespace Report

/-- The bytes of a report with anything in the reserved places are a frame. -/
theorem set_bytes (r : Report) (low high : UInt8) :
    (r.bytes.set 2 low).set 3 high = r.frame r.count low high [] := by
  rw [bytes_eq_frame]
  rfl

/-- Every report can be built from its parts. -/
theorem ofPeers_self (r : Report) : ofPeers r.source r.sequence r.peers = .ok r :=
  ofPeers_of_le r.peers_length_le

/-- **A report comes back from its bytes**, bit for bit, with anything behind
them. Only the strict decoder minds what is behind, and counts it. -/
theorem decode_bytes_append (source : UInt32) (sequence : UInt64) (peers : List PeerStat)
    (h : peers.length ≤ maxPeers) :
    ∃ r : Report, ofPeers source sequence peers = .ok r
      ∧ (r.source = source ∧ r.sequence = sequence ∧ r.peers = peers)
      ∧ ∀ tail : List UInt8, decode .lenient (r.bytes ++ tail) = .ok r
        ∧ decode .strict (r.bytes ++ tail)
          = if tail = [] then .ok r else .error (.trailingBytes tail.length) := by
  refine ⟨⟨source, sequence, peers, h⟩, ofPeers_of_le h, ⟨rfl, rfl, rfl⟩, fun tail => ?_⟩
  set r : Report := ⟨source, sequence, peers, h⟩
  have hex : r.Exhausts r.count tail := Or.inl (toNat_count r).symm
  rw [bytes_append]
  refine ⟨decode_lenient_frame 0 0 hex, ?_⟩
  rw [decode_strict_frame 0 0 hex, toNat_count, if_neg (Nat.lt_irrefl _)]

/-- A full report of NaNs that carry a payload, with one byte behind it. -/
theorem decode_bytes_append_full_of_nan :
    (List.replicate 255 (PeerStat.mk 1 ⟨0x7FC00001⟩ 3)).length ≤ maxPeers
      ∧ ∃ r : Report, ofPeers 7 42 (List.replicate 255 (PeerStat.mk 1 ⟨0x7FC00001⟩ 3)) = .ok r
        ∧ decode .lenient (r.bytes ++ [0xFF]) = .ok r
        ∧ decode .strict (r.bytes ++ [0xFF]) = .error (.trailingBytes 1) := by
  have hlen : (List.replicate 255 (PeerStat.mk 1 ⟨0x7FC00001⟩ 3)).length ≤ maxPeers := by
    rw [List.length_replicate]
    exact Nat.le_refl 255
  obtain ⟨r, hr, -, hdecode⟩ := decode_bytes_append 7 42 _ hlen
  exact ⟨hlen, r, hr, (hdecode [0xFF]).1, (hdecode [0xFF]).2⟩

/-! ## The canonical form -/

/-- The bytes of a report are those its frame has behind the first four, up to
the last record, behind four of their own. -/
theorem bytes_eq_of_frame (r : Report) (declared low high : UInt8) (rest : List UInt8) :
    r.bytes = [reportTag, r.count, 0, 0]
      ++ ((r.frame declared low high rest).take r.encodedLength).drop 4 := by
  have hlen : (r.frame declared low high []).length = r.encodedLength :=
    length_frame r declared low high []
  rw [frame_eq_append, List.take_left' hlen, bytes_eq_frame]
  rfl

/-- **Reading and writing back canonicalises**, and the strict decoder accepts
exactly the canonical forms, up to the reserved places.

The bytes of the report that the lenient decoder returns are four bytes of their
own – the tag, the count of the records kept, and zeroes – and then the bytes
that were received, up to the last whole record. The strict decoder reads
these bytes as the same report. It accepts a datagram when it is the bytes of a
report with anything in the two reserved places; there is no more than one
such report, and that is the one returned. -/
theorem decode_canonical (p : List UInt8) :
    (∀ r : Report, decode .lenient p = .ok r →
      16 + 12 * r.peers.length ≤ p.length
      ∧ (∃ k : UInt8, k.toNat = r.peers.length
        ∧ r.bytes = [20, k, 0, 0] ++ (p.take (16 + 12 * r.peers.length)).drop 4)
      ∧ decode .strict r.bytes = .ok r)
    ∧ (∀ r : Report, decode .strict p = .ok r
      ↔ ∃ low high : UInt8, p = (r.bytes.set 2 low).set 3 high)
    ∧ ((∃ r : Report, decode .strict p = .ok r)
      ↔ ∃! r : Report, ofPeers r.source r.sequence r.peers = .ok r
        ∧ ∃ low high : UInt8, p = (r.bytes.set 2 low).set 3 high) := by
  have hstrict : ∀ r : Report, decode .strict p = .ok r
      ↔ ∃ low high : UInt8, p = (r.bytes.set 2 low).set 3 high := by
    intro r
    simp only [set_bytes]
    exact decode_strict_eq_ok_iff
  refine ⟨fun r hr => ?_, hstrict, ?_, ?_⟩
  · obtain ⟨declared, low, high, rest, rfl, -⟩ := decode_lenient_eq_ok_iff.mp hr
    refine ⟨?_, ⟨r.count, toNat_count r, ?_⟩, ?_⟩
    · rw [length_frame, encodedLength_eq]
      exact Nat.le_add_right _ _
    · rw [← encodedLength_eq]
      exact bytes_eq_of_frame r declared low high rest
    · exact decode_strict_eq_ok_iff.mpr ⟨0, 0, bytes_eq_frame r⟩
  · rintro ⟨r, hr⟩
    refine ⟨r, ⟨ofPeers_self r, (hstrict r).mp hr⟩, ?_⟩
    rintro r' ⟨-, hform⟩
    exact Except.ok.inj (((hstrict r').mpr hform).symm.trans hr)
  · rintro ⟨r, ⟨-, hform⟩, -⟩
    exact ⟨r, (hstrict r).mpr hform⟩

/-- The datagram that breaks off is written back with one record and no more. -/
theorem decode_canonical_of_brokenOff :
    decode .lenient brokenOff = .ok keptOfBrokenOff
      ∧ keptOfBrokenOff.bytes = [20, 1, 0, 0] ++ (brokenOff.take 28).drop 4
      ∧ decode .strict keptOfBrokenOff.bytes = .ok keptOfBrokenOff := by
  have hkept : decode .lenient brokenOff = .ok keptOfBrokenOff := rfl
  obtain ⟨-, ⟨k, hk, hbytes⟩, hstrict⟩ := (decode_canonical brokenOff).1 _ hkept
  obtain rfl : k = 1 := UInt8.toNat_inj.mp hk
  exact ⟨hkept, hbytes, hstrict⟩

end Report

end PeerTelemetry
