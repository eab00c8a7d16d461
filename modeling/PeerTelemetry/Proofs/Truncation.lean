import PeerTelemetry.Proofs.Layout

/-!
# Datagrams that break off

A datagram can be cut anywhere: inside the header, between two records, inside
one, behind the last. The lenient decoder loses no more than the cut takes from
it. What it keeps of the first bytes of a datagram are **the first of the peers it
keeps of the whole** (`decode_lenient_take`), one for every record that lies in
front of the cut from end to end.

The cut leaves a frame a frame: fewer records, the same header, and of the record
that was cut in two no more than a remainder that is too short to be one
(`exists_take_frame`). The count in the header then promises more than is there,
and it is the remainder that keeps the decoder from reading on. Where no
record is lost the remainder only shrinks, and since the decoder never looked at
it, what lies behind the last declared record could as well be something else.
-/

namespace PeerTelemetry

/-- **Records that break off** are the records in front of the cut and a
remainder. If a record is lost, what remains of it is less than a record; if none is,
the remainder is no longer than what was left over before. -/
theorem PeerStat.exists_take_flatMap_bytes (peers : List PeerStat) (rest : List UInt8) (n : Nat) :
    ∃ rest' : List UInt8,
      (peers.flatMap bytes ++ rest).take n = (peers.take (n / size)).flatMap bytes ++ rest'
      ∧ (peers.length ≤ n / size ∧ rest'.length ≤ rest.length
        ∨ n / size < peers.length ∧ rest'.length < size) := by
  induction peers generalizing n with
  | nil =>
    refine ⟨rest.take n, ?_, Or.inl ⟨Nat.zero_le _, List.length_take_le' _ _⟩⟩
    rw [List.take_nil]
    rfl
  | cons s peers ih =>
    by_cases hn : n < size
    · have hdiv : n / size = 0 := Nat.div_eq_of_lt hn
      refine ⟨((s :: peers).flatMap bytes ++ rest).take n, ?_, Or.inr ⟨?_, ?_⟩⟩
      · rw [hdiv]
        rfl
      · rw [hdiv]
        exact Nat.succ_pos _
      · exact Nat.lt_of_le_of_lt (List.length_take_le _ _) hn
    · obtain ⟨m, rfl⟩ := Nat.exists_eq_add_of_le (Nat.not_lt.mp hn)
      have hdiv : (size + m) / size = m / size + 1 := Nat.add_div_left m (by decide)
      obtain ⟨rest', htake, hrest⟩ := ih m
      refine ⟨rest', ?_, ?_⟩
      · have hfirst : s.bytes.take (size + m) = s.bytes :=
          List.take_of_length_le (length_bytes s ▸ Nat.le_add_right _ _)
        rw [hdiv, List.take_succ_cons, List.flatMap_cons, List.flatMap_cons, List.append_assoc,
          List.append_assoc, List.take_append, hfirst, length_bytes, Nat.add_sub_cancel_left, htake]
      · rw [hdiv, List.length_cons]
        simpa using hrest

namespace Report

/-- **A report with the first of its peers only.** -/
def keep (r : Report) (k : Nat) : Report where
  source := r.source
  sequence := r.sequence
  peers := r.peers.take k
  peers_length_le := Nat.le_trans (List.length_take_le' _ _) r.peers_length_le

/-- A report has no more peers than there are. -/
theorem keep_of_le {r : Report} {k : Nat} (h : r.peers.length ≤ k) : r.keep k = r := by
  unfold keep
  simp only [List.take_of_length_le h]

section Frame

variable {r : Report} {declared : UInt8} {rest : List UInt8}

/-- The records of a report exhaust what a frame declares when there are no more of them. -/
theorem Exhausts.length_le (hex : r.Exhausts declared rest) :
    r.peers.length ≤ declared.toNat := by
  rcases hex with hall | ⟨hfew, -⟩
  · exact Nat.le_of_eq hall
  · exact Nat.le_of_lt hfew

/-- **A frame that breaks off behind its header is a frame** of the peers whose
records are in front of the cut. -/
theorem exists_take_frame (low high : UInt8) (hex : r.Exhausts declared rest) {n : Nat}
    (hn : Header.size ≤ n) :
    ∃ rest' : List UInt8,
      (r.frame declared low high rest).take n
        = (r.keep ((n - Header.size) / PeerStat.size)).frame declared low high rest'
      ∧ (r.keep ((n - Header.size) / PeerStat.size)).Exhausts declared rest' := by
  obtain ⟨m, rfl⟩ := Nat.exists_eq_add_of_le hn
  obtain ⟨rest', htake, hrest⟩ := PeerStat.exists_take_flatMap_bytes r.peers rest m
  rw [Nat.add_sub_cancel_left]
  refine ⟨rest', ?_, ?_⟩
  · unfold frame
    rw [← Header.length_spelling ⟨declared, r.source, r.sequence⟩ low high,
      List.take_length_add_append, htake]
    rfl
  · rcases hrest with ⟨hall, hle⟩ | ⟨hcut, hlt⟩
    · -- No record is lost, and a remainder that was too short before is so still.
      rw [keep_of_le hall]
      exact hex.imp_right (And.imp_right (Nat.lt_of_le_of_lt hle))
    · have hlen : (r.keep (m / PeerStat.size)).peers.length = m / PeerStat.size :=
        List.length_take_of_le (Nat.le_of_lt hcut)
      refine Or.inr ⟨?_, hlt⟩
      rw [hlen]
      exact Nat.lt_of_lt_of_le hcut hex.length_le

end Frame

/-! ## What is kept -/

/-- A cut inside the header leaves too little. -/
theorem decode_take_of_lt (policy : DecodePolicy) (p : List UInt8) {n : Nat}
    (hn : n < Header.size) : decode policy (p.take n) = .error (.tooShort (min n p.length)) := by
  have hlen : (p.take n).length < Header.size := Nat.lt_of_le_of_lt (List.length_take_le _ _) hn
  rw [decode_of_length_lt policy hlen, List.length_take]

/-- **A cut behind the header keeps the peers in front of it.** -/
theorem decode_lenient_take_of_ok {p : List UInt8} {r : Report} {n : Nat}
    (hn : Header.size ≤ n) (h : decode .lenient p = .ok r) :
    decode .lenient (p.take n) = .ok (r.keep ((n - Header.size) / PeerStat.size)) := by
  obtain ⟨declared, low, high, rest, rfl, hex⟩ := decode_lenient_eq_ok_iff.mp h
  obtain ⟨rest', htake, hex'⟩ := exists_take_frame low high hex hn
  rw [htake]
  exact decode_lenient_frame low high hex'

/-- A datagram with room for a header that the lenient decoder rejects has a foreign tag. -/
theorem exists_foreign_of_decode_lenient {p : List UInt8} {reason : RejectReason}
    (hp : Header.size ≤ p.length) (h : decode .lenient p = .error reason) :
    ∃ (tag : UInt8) (body : List UInt8),
      p = tag :: body ∧ tag ≠ reportTag ∧ reason = .wrongType tag := by
  cases layout p with
  | short hlen => exact absurd hlen (Nat.not_lt.mpr hp)
  | @foreign tag body htag hlen =>
    rw [decode_of_ne_tag _ htag hlen] at h
    exact ⟨tag, body, rfl, htag, (Except.error.inj h).symm⟩
  | frame r declared low high rest hex =>
    rw [decode_lenient_frame low high hex] at h
    cases h

/-- A cut behind the header does not change why a datagram is rejected. -/
theorem decode_lenient_take_of_error {p : List UInt8} {reason : RejectReason} {n : Nat}
    (hn : Header.size ≤ n) (h : decode .lenient p = .error reason) :
    decode .lenient (p.take n) = .error reason := by
  by_cases hp : p.length < Header.size
  · rw [List.take_of_length_le (Nat.le_trans (Nat.le_of_lt hp) hn), h]
  · obtain ⟨tag, body, rfl, htag, rfl⟩ := exists_foreign_of_decode_lenient (Nat.not_lt.mp hp) h
    obtain ⟨m, rfl⟩ := Nat.exists_eq_add_of_le' (Nat.le_trans (by decide : 1 ≤ Header.size) hn)
    rw [List.take_succ_cons]
    refine decode_of_ne_tag _ htag ?_
    simp only [List.length_cons, List.length_take] at hp ⊢
    omega

/-- A cut behind the header decides nothing about acceptance. -/
theorem decode_lenient_take_eq_error_iff (p : List UInt8) {n : Nat} (hn : Header.size ≤ n)
    (reason : RejectReason) :
    decode .lenient (p.take n) = .error reason ↔ decode .lenient p = .error reason := by
  refine ⟨fun h => ?_, decode_lenient_take_of_error hn⟩
  cases hp : decode .lenient p with
  | error e => rw [← h, decode_lenient_take_of_error hn hp]
  | ok r =>
    rw [decode_lenient_take_of_ok hn hp] at h
    cases h

/-- The bytes behind the last declared record are not looked at. -/
theorem decode_lenient_take_declared {p : List UInt8} {declared : UInt8}
    (h : p[1]? = some declared) :
    decode .lenient (p.take (16 + 12 * declared.toNat)) = decode .lenient p := by
  have hn : Header.size ≤ 16 + 12 * declared.toNat := Nat.le_add_right _ _
  cases hp : decode .lenient p with
  | error reason => exact decode_lenient_take_of_error hn hp
  | ok r =>
    rw [decode_lenient_take_of_ok hn hp]
    obtain ⟨declared', low, high, rest, rfl, hex⟩ := decode_lenient_eq_ok_iff.mp hp
    obtain rfl : declared' = declared := Option.some.inj h
    have hdiv : (16 + 12 * declared'.toNat - Header.size) / PeerStat.size = declared'.toNat := by
      unfold Header.size PeerStat.size
      omega
    rw [hdiv, keep_of_le hex.length_le]

/-- **What the lenient decoder keeps of the first bytes of a datagram.**

A datagram with room for a header is accepted with a cut behind the header if and only
if it is accepted whole, and is rejected for the same tag if it is not. What is
kept then are the first peers of the whole, one for every twelve bytes between the header and
the cut. A cut inside the header leaves too little.

So the peers kept of more and more bytes of a datagram are longer and longer prefixes
of each other, every one of them has its twelve bytes, and the bytes behind
the last record that the header declares can be replaced, left out or added to. -/
theorem decode_lenient_take (p : List UInt8) (n : Nat) :
    (16 ≤ n → 16 ≤ p.length →
      (∀ reason, decode .lenient (p.take n) = .error reason ↔ decode .lenient p = .error reason)
      ∧ (∀ reason, decode .lenient p = .error reason → ∃ tag, reason = .wrongType tag)
      ∧ ∀ r, decode .lenient p = .ok r → ∃ r', decode .lenient (p.take n) = .ok r'
        ∧ r'.source = r.source ∧ r'.sequence = r.sequence
        ∧ r'.peers = r.peers.take ((min n p.length - 16) / 12))
    ∧ (n < 16 → decode .lenient (p.take n) = .error (.tooShort (min n p.length)))
    ∧ (∀ m r, m ≤ n → decode .lenient (p.take m) = .ok r →
      16 + 12 * r.peers.length ≤ min m p.length
      ∧ ∃ r', decode .lenient (p.take n) = .ok r'
        ∧ r'.source = r.source ∧ r'.sequence = r.sequence ∧ r.peers <+: r'.peers)
    ∧ ∀ (declared : UInt8) (q : List UInt8), p[1]? = some declared →
      q.take (16 + 12 * declared.toNat) = p.take (16 + 12 * declared.toNat) →
      decode .lenient q = decode .lenient p := by
  refine ⟨fun hn hp => ⟨decode_lenient_take_eq_error_iff p hn,
    fun reason hreason => ?_, fun r hr => ?_⟩,
    decode_take_of_lt .lenient p, fun m r hmn hr => ⟨?_, ?_⟩, fun declared q hdeclared hq => ?_⟩
  · obtain ⟨tag, -, -, -, htag⟩ := exists_foreign_of_decode_lenient hp hreason
    exact ⟨tag, htag⟩
  · refine ⟨_, decode_lenient_take_of_ok hn hr, rfl, rfl, ?_⟩
    -- A cut behind the end is a cut at the end: either way all the peers are in front of it.
    have hlen := length_le_of_decode_eq_ok hr
    unfold keep Header.size PeerStat.size
    refine List.take_eq_take_iff.mpr ?_
    omega
  · have hlen := length_le_of_decode_eq_ok hr
    rwa [List.length_take] at hlen
  · have hm : Header.size ≤ m := by
      refine Nat.not_lt.mp (fun hlt => ?_)
      rw [decode_take_of_lt .lenient p hlt] at hr
      cases hr
    have htake : p.take m = (p.take n).take m := by rw [List.take_take, Nat.min_eq_left hmn]
    cases hn : decode .lenient (p.take n) with
    | error reason =>
      rw [htake, decode_lenient_take_of_error hm hn] at hr
      cases hr
    | ok r' =>
      rw [htake, decode_lenient_take_of_ok hm hn] at hr
      cases hr
      exact ⟨r', rfl, rfl, rfl, List.take_prefix _ _⟩
  · have hone : q[1]? = some declared := by
      have hcut := congrArg (fun bytes : List UInt8 => bytes[1]?) hq
      have hlt : 1 < 16 + 12 * declared.toNat := by omega
      simpa only [List.getElem?_take_of_lt hlt, hdeclared] using hcut
    rw [← decode_lenient_take_declared hone, hq, decode_lenient_take_declared hdeclared]

/-- The datagram that breaks off, with the bytes that its second record lacks. -/
def mended : List UInt8 := brokenOff ++ [9, 0, 0, 0xC0, 0x7F, 4, 0, 0, 0]

/-- What is kept of the datagram with two records. -/
def keptOfMended : Report :=
  ⟨7, 42, [⟨1, ⟨0x7FC00001⟩, 3⟩, ⟨0x09090909, ⟨0x7FC00000⟩, 4⟩], by decide⟩

/-- Cut inside its second record the datagram keeps the first one, and cut inside its
header it is too short; behind the one record of another datagram, bytes are exchanged. -/
theorem decode_lenient_take_of_mended :
    decode .lenient mended = .ok keptOfMended
      ∧ (∃ r, decode .lenient (mended.take 31) = .ok r ∧ r.peers = keptOfMended.peers.take 1)
      ∧ decode .lenient (mended.take 12) = .error (.tooShort 12)
      ∧ (decode .lenient (mended.take 31) = .ok keptOfBrokenOff
        ∧ ∃ r, decode .lenient (mended.take 40) = .ok r ∧ keptOfBrokenOff.peers <+: r.peers)
      ∧ decode .lenient (keptOfBrokenOff.bytes ++ [1, 2])
        = decode .lenient (keptOfBrokenOff.bytes ++ [3]) := by
  have hwhole : decode .lenient mended = .ok keptOfMended := rfl
  have hfirst : decode .lenient (mended.take 31) = .ok keptOfBrokenOff := rfl
  obtain ⟨-, -, hkept⟩ := (decode_lenient_take mended 31).1 (by decide) (by decide)
  obtain ⟨r, hr, -, -, hpeers⟩ := hkept _ hwhole
  obtain ⟨-, r', hr', -, -, hprefix⟩ :=
    (decode_lenient_take mended 40).2.2.1 31 _ (by decide) hfirst
  exact ⟨hwhole, ⟨r, hr, hpeers⟩, (decode_lenient_take mended 12).2.1 (by decide),
    ⟨hfirst, r', hr', hprefix⟩,
    (decode_lenient_take (keptOfBrokenOff.bytes ++ [3]) 0).2.2.2 1 _ rfl rfl⟩

end Report

end PeerTelemetry
