import PeerTelemetry.Proofs.Layout

/-!
# The two policies compared

The strict decoder is the lenient one with a check of the length, and what it
objects to can be told from the report that the lenient decoder returns
(`strict_verdict`). This is not how it goes about it: it compares the bytes
behind the header with the declared count before it reads any record, by a
product, a quotient and a difference, while the lenient decoder counts records
until it runs out of bytes. On a frame the two ways of counting agree, because
the bytes left over are fewer than a record whenever a record is missing.

The checks come in an order that shows: a datagram is judged by its header first,
in the same words under both policies; a frame that lacks records is truncated
whatever is left over behind the last one; and only a frame with all of its
records can have bytes too many.
-/

namespace PeerTelemetry

namespace RejectReason

/-- **Whether the header alone was the reason**: its length or its tag. -/
def OfHeader : RejectReason → Prop
  | tooShort _ | wrongType _ => True
  | truncated _ _ | trailingBytes _ => False

end RejectReason

namespace Report

/-! ## The strict rejections of a frame -/

section Frame

variable {r : Report} {declared : UInt8} {rest : List UInt8} (low high : UInt8)

/-- A frame is truncated when it declares more records than it has, and the
rejection says how many it declares and has. -/
theorem decode_strict_frame_eq_truncated_iff (hex : r.Exhausts declared rest) {d : UInt8}
    {complete : Nat} :
    decode .strict (r.frame declared low high rest) = .error (.truncated d complete)
      ↔ r.peers.length < declared.toNat ∧ d = declared ∧ complete = r.peers.length := by
  rw [decode_strict_frame low high hex]
  constructor
  · intro h
    split at h
    · rename_i hfew
      cases h
      exact ⟨hfew, rfl, rfl⟩
    · split at h <;> cases h
  · rintro ⟨hfew, rfl, rfl⟩
    rw [if_pos hfew]

/-- A frame has bytes too many when it goes on behind the records it declares, and
the rejection counts them. -/
theorem decode_strict_frame_eq_trailingBytes_iff (hex : r.Exhausts declared rest) {extra : Nat} :
    decode .strict (r.frame declared low high rest) = .error (.trailingBytes extra)
      ↔ r.peers.length = declared.toNat ∧ rest ≠ [] ∧ extra = rest.length := by
  rw [decode_strict_frame low high hex]
  constructor
  · intro h
    split at h
    · cases h
    · rename_i hall
      split at h
      · cases h
      · rename_i hmore
        cases h
        exact ⟨hex.length_eq hall, hmore, rfl⟩
  · rintro ⟨hall, hmore, rfl⟩
    rw [if_neg (by omega), if_neg hmore]

/-- A frame is not rejected for its header. -/
theorem decode_strict_frame_ne_ofHeader (hex : r.Exhausts declared rest) {reason : RejectReason}
    (h : decode .strict (r.frame declared low high rest) = .error reason) : ¬ reason.OfHeader := by
  rw [decode_strict_frame low high hex] at h
  split at h
  · cases h
    exact id
  · split at h
    · cases h
    · cases h
      exact id

end Frame

/-! ## The verdict -/

/-- **The header is judged alike** under both policies, and is all that the
lenient decoder objects to. -/
theorem decode_lenient_eq_error_iff (p : List UInt8) (reason : RejectReason) :
    decode .lenient p = .error reason ↔ decode .strict p = .error reason ∧ reason.OfHeader := by
  cases layout p with
  | short hlen =>
    rw [decode_of_length_lt _ hlen, decode_of_length_lt _ hlen]
    refine ⟨fun h => ⟨h, ?_⟩, And.left⟩
    cases h
    trivial
  | foreign htag hlen =>
    rw [decode_of_ne_tag _ htag hlen, decode_of_ne_tag _ htag hlen]
    refine ⟨fun h => ⟨h, ?_⟩, And.left⟩
    cases h
    trivial
  | frame r declared low high rest hex =>
    rw [decode_lenient_frame low high hex]
    constructor
    · intro h
      cases h
    · rintro ⟨h, hheader⟩
      exact absurd hheader (decode_strict_frame_ne_ofHeader low high hex h)

/-- **The strict decoder is the lenient decoder with a check of the length.**

The lenient decoder rejects exactly what the strict one rejects for its header,
for the same reason. Of a datagram it accepts as a report, the strict
decoder accepts those whose length is that of the report and whose second byte is
the count of its peers, as the same report; calls truncated those that declare
more, with the counts of both, and then less than a record is left over; and finds
bytes too many in those that go on behind the records they declare, as many as
are left over. -/
theorem strict_verdict (p : List UInt8) :
    (∀ reason, decode .lenient p = .error reason
      ↔ decode .strict p = .error reason ∧ reason.OfHeader)
    ∧ (∀ reason, decode .lenient p = .error reason
      → (∀ d complete, reason ≠ .truncated d complete) ∧ ∀ extra, reason ≠ .trailingBytes extra)
    ∧ ∀ r : Report, decode .lenient p = .ok r →
      ∃ declared : UInt8, p[1]? = some declared
        ∧ r.encodedLength ≤ p.length
        ∧ (∀ r', decode .strict p = .ok r'
          ↔ (p.length = r.encodedLength ∧ declared.toNat = r.peers.length) ∧ r' = r)
        ∧ (∀ d complete, decode .strict p = .error (.truncated d complete)
          ↔ r.peers.length < declared.toNat ∧ d = declared ∧ complete = r.peers.length)
        ∧ (r.peers.length < declared.toNat → p.length - r.encodedLength < 12)
        ∧ ∀ extra, decode .strict p = .error (.trailingBytes extra)
          ↔ (r.peers.length = declared.toNat ∧ r.encodedLength < p.length)
            ∧ extra = p.length - r.encodedLength := by
  refine ⟨decode_lenient_eq_error_iff p, fun reason h => ?_, fun r h => ?_⟩
  · have hheader := ((decode_lenient_eq_error_iff p reason).mp h).2
    constructor
    · rintro d complete rfl
      exact hheader
    · rintro extra rfl
      exact hheader
  · obtain ⟨declared, low, high, rest, rfl, hex⟩ := decode_lenient_eq_ok_iff.mp h
    have hlen := length_frame r declared low high rest
    refine ⟨declared, getElem?_one_frame r declared low high rest, ?_, ?_, ?_, ?_, ?_⟩
    · exact hlen ▸ Nat.le_add_right _ _
    · intro r'
      rw [decode_strict_frame_eq_ok_iff low high hex, hlen, ← and_assoc]
      refine and_congr_left' (and_congr_left' ?_)
      rw [← List.length_eq_zero_iff]
      omega
    · intro d complete
      exact decode_strict_frame_eq_truncated_iff low high hex
    · intro hfew
      rw [hlen, Nat.add_sub_cancel_left]
      exact (hex.resolve_left (Nat.ne_of_lt hfew)).2
    · intro extra
      rw [decode_strict_frame_eq_trailingBytes_iff low high hex, hlen, Nat.add_sub_cancel_left,
        ← and_assoc]
      refine and_congr_left' (and_congr_right' ?_)
      rw [← List.length_pos_iff]
      omega

/-- The datagram that breaks off is truncated, with three bytes left over. -/
theorem strict_verdict_of_brokenOff :
    decode .lenient brokenOff = .ok keptOfBrokenOff
      ∧ decode .strict brokenOff = .error (.truncated 3 1)
      ∧ brokenOff.length - keptOfBrokenOff.encodedLength < 12 := by
  have hkept : decode .lenient brokenOff = .ok keptOfBrokenOff := rfl
  obtain ⟨declared, hdeclared, -, -, htruncated, hover, -⟩ :=
    (strict_verdict brokenOff).2.2 _ hkept
  obtain rfl : 3 = declared := Option.some.inj hdeclared
  have hfew : keptOfBrokenOff.peers.length < (3 : UInt8).toNat := by decide
  exact ⟨hkept, (htruncated 3 1).mpr ⟨hfew, rfl, rfl⟩, hover hfew⟩

end Report

end PeerTelemetry
