import Mathlib.Algebra.BigOperators.Ring.Finset
import PeerTelemetry.Proofs.Layout

/-!
# A report by its offsets

The decoder never names an offset. It takes words off the front of what is left,
field after field and record after record, and where a field stands in the
datagram follows from everything that was taken before it. What comes of this is
a report each of whose fields stands at **an offset of its own**
(`Report.SpelledAt`): the fields of the record `i` begin at the byte `16 + 12 * i`,
with the least significant byte of a number first, and there are as many records
as the header declares and the datagram has room for.

The offsets say which bytes can matter to what. Two datagrams of one length give
the same report when they differ in the reserved bytes only, and when they
differ in the twelve bytes of one record the reports differ in the peer of that
record at most (`Report.decode_lenient_iff_spelledAt`).
-/

namespace PeerTelemetry

open Finset (range)

/-! ## Numbers at an offset -/

/-- The byte at a place of a datagram; behind its end there are zeros. -/
def byteAt (p : List UInt8) (n : Nat) : Nat := (p.getD n 0).toNat

/-- **The number at an offset** of a datagram: `width` bytes from there on, each
worth 256 times the one before it. -/
def numberAt (p : List UInt8) (offset width : Nat) : Nat :=
  ∑ j ∈ range width, byteAt p (offset + j) * 256 ^ j

/-- A number depends on its own bytes and on no others. -/
theorem numberAt_congr {p q : List UInt8} {offset width : Nat}
    (h : ∀ n, offset ≤ n → n < offset + width → p[n]? = q[n]?) :
    numberAt p offset width = numberAt q offset width := by
  refine Finset.sum_congr rfl (fun j hj => ?_)
  have hj : j < width := Finset.mem_range.mp hj
  unfold byteAt
  rw [List.getD_eq_getElem?_getD, List.getD_eq_getElem?_getD,
    h (offset + j) (Nat.le_add_right _ _) (by omega)]

/-- **The number at the offset of some bytes** is the one they spell. -/
theorem numberAt_append (front bytes rest : List UInt8) :
    numberAt (front ++ (bytes ++ rest)) front.length bytes.length = ofLittleEndian bytes := by
  induction bytes generalizing front with
  | nil => rfl
  | cons b bytes ih =>
    have hlow : byteAt (front ++ (b :: bytes ++ rest)) front.length = b.toNat := by
      simp [byteAt]
    have hhigh := ih (front ++ [b])
    rw [List.append_assoc, List.length_append, List.length_singleton] at hhigh
    unfold numberAt at hhigh ⊢
    rw [ofLittleEndian, ← hhigh, List.length_cons, Finset.sum_range_succ', Finset.mul_sum,
      Nat.add_zero, hlow, pow_zero, mul_one, add_comm]
    refine congrArg (b.toNat + ·) (Finset.sum_congr rfl (fun j _ => ?_))
    rw [pow_succ, add_right_comm, add_assoc, mul_comm (256 ^ j), mul_left_comm]
    rfl

/-- A 32-bit word that is written at an offset is found there. -/
theorem numberAt_uint32 (w : UInt32) {front : List UInt8} {offset : Nat}
    (h : front.length = offset) (rest : List UInt8) :
    numberAt (front ++ (littleEndian 4 w.toNat ++ rest)) offset 4 = w.toNat := by
  have hlt : w.toNat < 256 ^ 4 := by simpa using w.toNat_lt
  have hat := numberAt_append front (littleEndian 4 w.toNat) rest
  rwa [length_littleEndian, h, ofLittleEndian_littleEndian, Nat.mod_eq_of_lt hlt] at hat

/-- A 64-bit word that is written at an offset is found there. -/
theorem numberAt_uint64 (w : UInt64) {front : List UInt8} {offset : Nat}
    (h : front.length = offset) (rest : List UInt8) :
    numberAt (front ++ (littleEndian 8 w.toNat ++ rest)) offset 8 = w.toNat := by
  have hlt : w.toNat < 256 ^ 8 := by simpa using w.toNat_lt
  have hat := numberAt_append front (littleEndian 8 w.toNat) rest
  rwa [length_littleEndian, h, ofLittleEndian_littleEndian, Nat.mod_eq_of_lt hlt] at hat

namespace PeerStat

/-- **A record spelled at an offset**: its id, its round-trip time and its losses,
one behind the other. -/
structure SpelledAt (s : PeerStat) (p : List UInt8) (offset : Nat) : Prop where
  id_eq : s.id.toNat = numberAt p offset 4
  rtt_eq : s.rtt.bits.toNat = numberAt p (offset + 4) 4
  losses_eq : s.losses.toNat = numberAt p (offset + 8) 4

/-- A record is spelled where its bytes are. -/
theorem spelledAt_append (s : PeerStat) {front : List UInt8} {offset : Nat}
    (h : front.length = offset) (rest : List UInt8) :
    s.SpelledAt (front ++ (s.bytes ++ rest)) offset := by
  have hbytes : s.bytes ++ rest = littleEndian 4 s.id.toNat
      ++ (littleEndian 4 s.rtt.bits.toNat ++ (littleEndian 4 s.losses.toNat ++ rest)) := by
    simp only [bytes, encodeInto, List.nil_append, List.append_assoc]
  rw [hbytes]
  refine ⟨(numberAt_uint32 _ h _).symm, ?_, ?_⟩
  · rw [← List.append_assoc, numberAt_uint32]
    rw [List.length_append, length_littleEndian, h]
  · rw [← List.append_assoc, ← List.append_assoc, numberAt_uint32]
    rw [List.length_append, List.length_append, length_littleEndian, length_littleEndian, h]

/-- No two records are spelled at one place. -/
theorem SpelledAt.unique {s s' : PeerStat} {p : List UInt8} {offset : Nat}
    (h : s.SpelledAt p offset) (h' : s'.SpelledAt p offset) : s = s' := by
  obtain ⟨id, ⟨rtt⟩, losses⟩ := s
  obtain ⟨id', ⟨rtt'⟩, losses'⟩ := s'
  obtain rfl : id = id' := UInt32.toNat_inj.mp (h.id_eq.trans h'.id_eq.symm)
  obtain rfl : rtt = rtt' := UInt32.toNat_inj.mp (h.rtt_eq.trans h'.rtt_eq.symm)
  obtain rfl : losses = losses' := UInt32.toNat_inj.mp (h.losses_eq.trans h'.losses_eq.symm)
  rfl

/-- A record is spelled by its own twelve bytes. -/
theorem SpelledAt.congr {s : PeerStat} {p q : List UInt8} {offset : Nat}
    (h : s.SpelledAt p offset) (hbytes : ∀ n, offset ≤ n → n < offset + 12 → p[n]? = q[n]?) :
    s.SpelledAt q offset where
  id_eq := h.id_eq.trans (numberAt_congr fun n _ _ => hbytes n (by omega) (by omega))
  rtt_eq := h.rtt_eq.trans (numberAt_congr fun n _ _ => hbytes n (by omega) (by omega))
  losses_eq := h.losses_eq.trans (numberAt_congr fun n _ _ => hbytes n (by omega) (by omega))

end PeerStat

namespace Report

/-- **A report spelled by a datagram.** The source is the number at the byte 4 and
the sequence number the one at the byte 8. The peers are as many as the byte 1
declares, or as the bytes behind the header are enough for, and each of them is
spelled at its place, twelve bytes behind the one before it. -/
structure SpelledAt (r : Report) (p : List UInt8) : Prop where
  source_eq : r.source.toNat = numberAt p 4 4
  sequence_eq : r.sequence.toNat = numberAt p 8 8
  length_peers_eq : r.peers.length = min (byteAt p 1) ((p.length - 16) / 12)
  peer : ∀ (i : Nat) (hi : i < r.peers.length), r.peers[i].SpelledAt p (16 + 12 * i)

/-- A frame spells its report. -/
theorem spelledAt_frame {r : Report} {declared : UInt8} {rest : List UInt8} (low high : UInt8)
    (hex : r.Exhausts declared rest) : r.SpelledAt (r.frame declared low high rest) where
  source_eq := by
    unfold frame Header.spelling
    simp only [List.append_assoc]
    exact (numberAt_uint32 r.source rfl _).symm
  sequence_eq := by
    unfold frame Header.spelling
    rw [List.append_assoc, numberAt_uint64]
    rw [List.length_append, length_littleEndian]
    rfl
  length_peers_eq := by
    have hdeclared : byteAt (r.frame declared low high rest) 1 = declared.toNat := rfl
    rw [hdeclared, length_frame, encodedLength_eq]
    rcases hex with hall | ⟨hfew, hrest⟩
    · omega
    · unfold PeerStat.size at hrest
      omega
  peer := by
    intro i hi
    -- In front of the record there are the header and the records before it.
    have hsplit : r.frame declared low high rest
        = (Header.spelling ⟨declared, r.source, r.sequence⟩ low high
            ++ (r.peers.take i).flatMap PeerStat.bytes)
          ++ (r.peers[i].bytes ++ ((r.peers.drop (i + 1)).flatMap PeerStat.bytes ++ rest)) := by
      have hpeers : r.peers.flatMap PeerStat.bytes = (r.peers.take i).flatMap PeerStat.bytes
          ++ (r.peers[i].bytes ++ (r.peers.drop (i + 1)).flatMap PeerStat.bytes) := by
        rw [← List.flatMap_cons, ← List.drop_eq_getElem_cons hi, ← List.flatMap_append,
          List.take_append_drop]
      unfold frame
      rw [hpeers]
      simp only [List.append_assoc]
    rw [hsplit]
    refine PeerStat.spelledAt_append _ ?_ _
    rw [List.length_append, Header.length_spelling, PeerStat.length_flatMap_bytes,
      List.length_take_of_le (Nat.le_of_lt hi), Nat.mul_comm]
    rfl

/-- **What is decoded is spelled**, under either policy. -/
theorem spelledAt_of_decode_eq_ok {policy : DecodePolicy} {p : List UInt8} {r : Report}
    (h : decode policy p = .ok r) : r.SpelledAt p := by
  obtain ⟨declared, low, high, rest, rfl, hex, -⟩ := exists_eq_frame_of_decode_eq_ok h
  exact spelledAt_frame low high hex

/-- A datagram spells one report and no other. -/
theorem SpelledAt.unique {r r' : Report} {p : List UInt8} (h : r.SpelledAt p)
    (h' : r'.SpelledAt p) : r = r' := by
  have hlength : r.peers.length = r'.peers.length := h.length_peers_eq.trans h'.length_peers_eq.symm
  have hpeers : r.peers = r'.peers :=
    List.ext_getElem hlength fun i hi hi' => (h.peer i hi).unique (h'.peer i hi')
  obtain ⟨source, sequence, peers, _⟩ := r
  obtain ⟨source', sequence', peers', _⟩ := r'
  obtain rfl : source = source' := UInt32.toNat_inj.mp (h.source_eq.trans h'.source_eq.symm)
  obtain rfl : sequence = sequence' :=
    UInt64.toNat_inj.mp (h.sequence_eq.trans h'.sequence_eq.symm)
  obtain rfl : peers = peers' := hpeers
  rfl

/-- The two reserved bytes spell nothing. -/
theorem SpelledAt.congr {r : Report} {p q : List UInt8} (h : r.SpelledAt p)
    (hlength : q.length = p.length) (hbytes : ∀ n, n ≠ 2 → n ≠ 3 → p[n]? = q[n]?) :
    r.SpelledAt q where
  source_eq := h.source_eq.trans (numberAt_congr fun n _ _ => hbytes n (by omega) (by omega))
  sequence_eq := h.sequence_eq.trans (numberAt_congr fun n _ _ => hbytes n (by omega) (by omega))
  length_peers_eq := by
    have hone : byteAt q 1 = byteAt p 1 := by
      simp only [byteAt, List.getD_eq_getElem?_getD, hbytes 1 (by decide) (by decide)]
    rw [hone, hlength]
    exact h.length_peers_eq
  peer i hi := (h.peer i hi).congr fun n _ _ => hbytes n (by omega) (by omega)

/-- **The lenient decoder returns what the datagram spells**, where there is room for
a header under the right tag. -/
theorem exists_spelledAt {p : List UInt8} (hlen : 16 ≤ p.length) (htag : p[0]? = some 20) :
    ∃ r : Report, decode .lenient p = .ok r ∧ r.SpelledAt p := by
  obtain ⟨r, declared, low, high, rest, rfl, hex⟩ := exists_eq_frame hlen htag
  exact ⟨r, decode_lenient_frame low high hex, spelledAt_frame low high hex⟩

/-- A datagram spells what the lenient decoder returns, and nothing else. -/
theorem decode_lenient_eq_ok_iff_spelledAt {p : List UInt8} (hlen : 16 ≤ p.length)
    (htag : p[0]? = some 20) (r : Report) : decode .lenient p = .ok r ↔ r.SpelledAt p := by
  obtain ⟨r', hr', hspelled⟩ := exists_spelledAt hlen htag
  constructor
  · intro h
    obtain rfl : r' = r := Except.ok.inj (hr'.symm.trans h)
    exact hspelled
  · intro h
    rw [hr', hspelled.unique h]

/-- **Lenient decoding is reading by offsets.**

A datagram with room for a header and the tag of a report is accepted, as the one report that
it spells: the source, the sequence number, and the peers in the order of their records, each
from its own twelve bytes, as many as are declared and there. So the reserved bytes do not
matter, and a datagram of the same length that has other bytes in the place of
the record `j` and nowhere else is a report with the same source, the same sequence number and
as many peers, all the same but the one of that record. -/
theorem decode_lenient_iff_spelledAt (p : List UInt8) (hlen : 16 ≤ p.length)
    (htag : p[0]? = some 20) :
    (∃ r : Report, decode .lenient p = .ok r)
    ∧ (∀ r : Report, decode .lenient p = .ok r ↔ r.SpelledAt p)
    ∧ (∀ low high : UInt8, decode .lenient ((p.set 2 low).set 3 high) = decode .lenient p)
    ∧ ∀ (j : Nat) (q : List UInt8), q.length = p.length →
      (∀ n, n < 16 + 12 * j ∨ 28 + 12 * j ≤ n → q[n]? = p[n]?) →
      ∃ r r' : Report, decode .lenient p = .ok r ∧ decode .lenient q = .ok r'
        ∧ r'.source = r.source ∧ r'.sequence = r.sequence
        ∧ r'.peers.length = r.peers.length ∧ ∀ i, i ≠ j → r'.peers[i]? = r.peers[i]? := by
  obtain ⟨r, hr, hspelled⟩ := exists_spelledAt hlen htag
  refine ⟨⟨r, hr⟩, decode_lenient_eq_ok_iff_spelledAt hlen htag, fun low high => ?_,
    fun j q hq hbytes => ?_⟩
  · have hset : ((p.set 2 low).set 3 high).length = p.length := by
      rw [List.length_set, List.length_set]
    have hother : ∀ n, n ≠ 2 → n ≠ 3 → p[n]? = ((p.set 2 low).set 3 high)[n]? := by
      intro n h2 h3
      rw [List.getElem?_set_ne (Ne.symm h3), List.getElem?_set_ne (Ne.symm h2)]
    rw [hr, decode_lenient_eq_ok_iff_spelledAt (hset ▸ hlen)
      ((hother 0 (by decide) (by decide)).symm.trans htag)]
    exact hspelled.congr hset hother
  · obtain ⟨r', hr', hspelled'⟩ :=
      exists_spelledAt (hq ▸ hlen) ((hbytes 0 (by omega)).trans htag)
    have hone : byteAt q 1 = byteAt p 1 := by
      simp only [byteAt, List.getD_eq_getElem?_getD, hbytes 1 (by omega)]
    have hlength : r'.peers.length = r.peers.length := by
      rw [hspelled.length_peers_eq, hspelled'.length_peers_eq, hone, hq]
    refine ⟨r, r', hr, hr', UInt32.toNat_inj.mp ?_, UInt64.toNat_inj.mp ?_, hlength,
      fun i hij => ?_⟩
    · rw [hspelled.source_eq, hspelled'.source_eq]
      exact numberAt_congr fun n _ _ => hbytes n (by omega)
    · rw [hspelled.sequence_eq, hspelled'.sequence_eq]
      exact numberAt_congr fun n _ _ => hbytes n (by omega)
    · by_cases hi : i < r.peers.length
      · have hi' : i < r'.peers.length := hlength ▸ hi
        rw [List.getElem?_eq_getElem hi, List.getElem?_eq_getElem hi']
        refine congrArg some (((hspelled'.peer i hi').congr fun n _ _ => ?_).unique
          (hspelled.peer i hi))
        -- The records `i` and `j` have no byte in common.
        exact hbytes n (by omega)
      · rw [List.getElem?_eq_none (Nat.not_lt.mp hi),
          List.getElem?_eq_none (hlength ▸ Nat.not_lt.mp hi)]

/-- Of the datagram that breaks off, the one whole record is spelled from the byte 16 on; other
bytes in its place leave the source and the count of the peers as they are. -/
theorem decode_lenient_iff_spelledAt_of_brokenOff :
    (16 ≤ brokenOff.length ∧ brokenOff[0]? = some 20)
    ∧ keptOfBrokenOff.SpelledAt brokenOff
    ∧ decode .lenient ((brokenOff.set 2 1).set 3 2) = .ok keptOfBrokenOff
    ∧ ∃ r r' : Report, decode .lenient brokenOff = .ok r
      ∧ decode .lenient (brokenOff.set 16 0xAA) = .ok r'
      ∧ r'.source = r.source ∧ r'.peers.length = r.peers.length := by
  have hkept : decode .lenient brokenOff = .ok keptOfBrokenOff := rfl
  obtain ⟨-, hspelled, hreserved, hrecord⟩ :=
    decode_lenient_iff_spelledAt brokenOff (by decide) rfl
  have hother : ∀ n, n < 16 + 12 * 0 ∨ 28 + 12 * 0 ≤ n →
      (brokenOff.set 16 0xAA)[n]? = brokenOff[n]? := by
    intro n hn
    exact List.getElem?_set_ne (by omega)
  obtain ⟨r, r', hr, hr', hsource, -, hlength, -⟩ := hrecord 0 (brokenOff.set 16 0xAA) rfl hother
  exact ⟨⟨by decide, rfl⟩, (hspelled _).mp hkept, (hreserved 1 2).trans hkept,
    r, r', hr, hr', hsource, hlength⟩

end Report

end PeerTelemetry
