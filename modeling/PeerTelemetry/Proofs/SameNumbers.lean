import PeerTelemetry.Proofs.NearestPattern
import PeerTelemetry.Proofs.RoundTrip

/-!
# The same numbers and the same bytes

Reports are compared in two ways. Their bytes may be the same; or their numbers may be, where two
round-trip times have the same number if there is a number that the bits of both stand for
(`Rtt.sameValue_iff_value?`). Neither implies the other: the two zeros are the same number with
different bytes, and a NaN has the same bytes as itself and no number at all.

Nothing else comes between the two. Every report has a **plain form**, in which the negative zero
does not occur, and on reports without a NaN to have the same numbers is to have the same plain form
(`Report.sameValue_iff_plain`). That the comparison is symmetric, transitive, and reflexive
where it can be, is nothing more than that. Taking the plain form is an operation on bytes as well,
at the four bytes of each round-trip time (`Report.unsignZeros_bytes`); and a report is
determined by its bytes.
-/

namespace PeerTelemetry

/-! ## Round-trip times -/

namespace Rtt

variable {a b rtt : Rtt}

/-- The negative zero. -/
def negativeZero : Rtt := ⟨0x80000000⟩

/-- **The plain form**: zero in the place of the negative zero. -/
def plain (rtt : Rtt) : Rtt := if rtt = negativeZero then ⟨0⟩ else rtt

theorem isZero_iff : rtt.isZero = true ↔ rtt = ⟨0⟩ ∨ rtt = negativeZero := by
  have hzero : rtt.isZero = true ↔ rtt.magnitude = 0 := decide_eq_true_iff
  rw [hzero]
  constructor
  · intro h
    rw [← ofParts_self rtt, h]
    cases rtt.negative with
    | false => exact Or.inl rfl
    | true => exact Or.inr rfl
  · rintro (rfl | rfl) <;> rfl

theorem plain_of_isZero (h : rtt.isZero = true) : rtt.plain = ⟨0⟩ := by
  rcases isZero_iff.mp h with rfl | rfl <;> rfl

theorem plain_of_not_isZero (h : rtt.isZero = false) : rtt.plain = rtt := by
  refine if_neg fun heq => ?_
  rw [isZero_iff.mpr (Or.inr heq)] at h
  cases h

theorem isZero_plain (rtt : Rtt) : rtt.plain.isZero = rtt.isZero := by
  cases h : rtt.isZero with
  | true =>
    rw [plain_of_isZero h]
    rfl
  | false => rw [plain_of_not_isZero h, h]

/-- Two have the same plain form that are the same or are both a zero. -/
theorem plain_eq_plain_iff :
    a.plain = b.plain ↔ a = b ∨ a.isZero = true ∧ b.isZero = true := by
  constructor
  · intro h
    have hzero : b.isZero = a.isZero := by rw [← isZero_plain, ← h, isZero_plain]
    cases ha : a.isZero with
    | true => exact Or.inr ⟨rfl, hzero.trans ha⟩
    | false =>
      rw [plain_of_not_isZero ha, plain_of_not_isZero (hzero.trans ha)] at h
      exact Or.inl h
  · rintro (rfl | ⟨ha, hb⟩)
    · rfl
    · rw [plain_of_isZero ha, plain_of_isZero hb]

/-- **The same number** is the same plain form, where there is a number. -/
theorem sameValue_iff_plain :
    a.sameValue b = true ↔ a.isNaN = false ∧ b.isNaN = false ∧ a.plain = b.plain := by
  simp only [sameValue, Bool.and_eq_true, Bool.not_eq_true', Bool.or_eq_true, decide_eq_true_eq,
    plain_eq_plain_iff, and_assoc]

theorem isNaN_iff_value? : rtt.isNaN = true ↔ rtt.value? = none := by
  have hnan : rtt.isNaN = true ↔ Format.single.infinity < rtt.magnitude := decide_eq_true_iff
  rw [hnan]
  refine ⟨value?_of_isNaN, fun hvalue => not_le.mp fun hle => ?_⟩
  rcases hle.lt_or_eq with hfinite | hinfinite
  · rw [value?_of_finite hfinite] at hvalue
    cases hvalue
  · rw [value?_of_infinite hinfinite] at hvalue
    cases hvalue

theorem value?_of_isZero (h : rtt.isZero = true) : rtt.value? = some (0 : WithBotTop ℚ) := by
  rcases isZero_iff.mp h with rfl | rfl <;> decide +kernel

/-- A number has one pattern, up to its sign. -/
theorem magnitude_eq_of_size_eq (h : b.size = a.size) : b.magnitude = a.magnitude := by
  have hscale : ((2 ^ Format.single.scale : ℕ) : ℚ) ≠ 0 :=
    Nat.cast_ne_zero.mpr (Nat.two_pow_pos _).ne'
  rw [size_eq, size_eq, div_left_inj' hscale, Nat.cast_inj] at h
  exact Format.single.units_strictMono.injective h

theorem eq_of_magnitude_eq (hnegative : b.negative = a.negative)
    (hmagnitude : b.magnitude = a.magnitude) : a = b := by
  rw [← ofParts_self a, ← ofParts_self b, hnegative, hmagnitude]

/-- Two of the same number are the same, or are both a zero. -/
theorem eq_or_isZero_of_signed_eq (h : signed b.negative b.size = signed a.negative a.size) :
    a = b ∨ a.isZero = true ∧ b.isZero = true := by
  have ha := a.size_nonneg
  have hb := b.size_nonneg
  by_cases hsign : b.negative = a.negative
  · have hdist := abs_signed_sub_signed a.negative b.size a.size
    rw [← hsign, h, hsign, sub_self, abs_zero, eq_comm, abs_eq_zero, sub_eq_zero] at hdist
    exact Or.inl (eq_of_magnitude_eq hsign (magnitude_eq_of_size_eq hdist))
  · have hdist := abs_signed_sub_signed a.negative (-b.size) a.size
    rw [← signed_of_ne hsign, h, sub_self, abs_zero, eq_comm, abs_eq_zero] at hdist
    have hzero : ∀ rtt : Rtt, rtt.size = 0 → rtt.isZero = true := fun rtt hsize =>
      decide_eq_true (size_eq_zero_iff.mp hsize)
    exact Or.inr ⟨hzero a (by linarith), hzero b (by linarith)⟩

/-- An infinity has its sign and one pattern. -/
theorem of_value?_eq_infinity {negative : Bool}
    (h : rtt.value? = some (if negative then ⊥ else ⊤)) :
    rtt.negative = negative ∧ rtt.magnitude = Format.single.infinity := by
  rcases Nat.lt_trichotomy rtt.magnitude Format.single.infinity with hfinite | hinfinite | hnan
  · rw [value?_of_finite hfinite, Option.some.injEq] at h
    cases negative with
    | false => exact absurd h (WithBotTop.coe_ne_top _)
    | true => exact absurd h (WithBotTop.coe_ne_bot _)
  · refine ⟨?_, hinfinite⟩
    rw [value?_of_infinite hinfinite, Option.some.injEq] at h
    revert h
    cases rtt.negative <;> cases negative <;> decide
  · rw [value?_of_isNaN hnan] at h
    cases h

/-- **Two that stand for the same number** are the same or are both a zero. -/
theorem eq_or_isZero_of_value?_eq {v : WithBotTop ℚ} (ha : a.value? = some v)
    (hb : b.value? = some v) : a = b ∨ a.isZero = true ∧ b.isZero = true := by
  rcases Nat.lt_trichotomy a.magnitude Format.single.infinity with hfinite | hinfinite | hnan
  · rw [value?_of_finite hfinite, Option.some.injEq] at ha
    rw [← ha] at hb
    obtain ⟨-, hvalue⟩ := eq_signed_of_value? hb
    exact eq_or_isZero_of_signed_eq hvalue.symm
  · rw [value?_of_infinite hinfinite, Option.some.injEq] at ha
    rw [← ha] at hb
    obtain ⟨hnegative, hmagnitude⟩ := of_value?_eq_infinity hb
    exact Or.inl (eq_of_magnitude_eq hnegative (hmagnitude.trans hinfinite.symm))
  · rw [value?_of_isNaN hnan] at ha
    cases ha

/-- **The same number** is what both stand for. -/
theorem sameValue_iff_value? :
    a.sameValue b = true ↔ ∃ v : WithBotTop ℚ, a.value? = some v ∧ b.value? = some v := by
  rw [sameValue_iff_plain, plain_eq_plain_iff]
  constructor
  · rintro ⟨hnan, -, rfl | ⟨ha, hb⟩⟩
    · have hsome : a.value? ≠ none := fun hnone => by
        rw [isNaN_iff_value?.mpr hnone] at hnan
        cases hnan
      obtain ⟨v, hv⟩ := Option.ne_none_iff_exists'.mp hsome
      exact ⟨v, hv, hv⟩
    · exact ⟨0, value?_of_isZero ha, value?_of_isZero hb⟩
  · rintro ⟨v, ha, hb⟩
    have hnumber : ∀ rtt : Rtt, rtt.value? = some v → rtt.isNaN = false := fun rtt hvalue => by
      refine Bool.eq_false_iff.mpr fun hnan => ?_
      rw [isNaN_iff_value?.mp hnan] at hvalue
      cases hvalue
    exact ⟨hnumber a ha, hnumber b hb, eq_or_isZero_of_value?_eq ha hb⟩

end Rtt

/-! ## Records -/

namespace PeerStat

/-- The plain form of a record. -/
def plain (p : PeerStat) : PeerStat := { p with rtt := p.rtt.plain }

theorem sameValue_iff_plain {a b : PeerStat} :
    a.sameValue b = true ↔ a.rtt.isNaN = false ∧ b.rtt.isNaN = false ∧ a.plain = b.plain := by
  simp only [sameValue, Bool.and_eq_true, decide_eq_true_eq, Rtt.sameValue_iff_plain, plain,
    PeerStat.mk.injEq]
  tauto

/-- **A list of records has the numbers of another**, one for one. -/
theorem all_sameValue_iff_plain (peers others : List PeerStat) :
    (peers.length = others.length ∧ (peers.zip others).all (fun (p, q) => p.sameValue q) = true)
      ↔ (∀ p ∈ peers, p.rtt.isNaN = false) ∧ (∀ q ∈ others, q.rtt.isNaN = false)
        ∧ peers.map plain = others.map plain := by
  induction peers generalizing others with
  | nil =>
    cases others with
    | nil => simp
    | cons q others => simp
  | cons p peers ih =>
    cases others with
    | nil => simp
    | cons q others =>
      simp only [List.length_cons, Nat.add_right_cancel_iff, List.zip_cons_cons, List.all_cons,
        Bool.and_eq_true, List.forall_mem_cons, List.map_cons, List.cons.injEq, sameValue_iff_plain]
      rw [and_left_comm, ih]
      tauto

/-- **Zero in the place of the negative zero**, in the bytes of a record. -/
def unsignZero (record : List UInt8) : List UInt8 :=
  if (record.drop 4).take 4 = [0, 0, 0, 0x80] then
    record.take 4 ++ ([0, 0, 0, 0] ++ record.drop 8)
  else record

/-- Zero in the place of the negative zero, in the bytes of the first `n` records. -/
def unsignZeros : Nat → List UInt8 → List UInt8
  | 0, records => records
  | n + 1, records => unsignZero (records.take size) ++ unsignZeros n (records.drop size)

theorem bytes_eq_append (p : PeerStat) :
    p.bytes = littleEndian 4 p.id.toNat
      ++ (littleEndian 4 p.rtt.bits.toNat ++ littleEndian 4 p.losses.toNat) := by
  rw [bytes, encodeInto, List.nil_append, List.append_assoc]

/-- The bytes of the negative zero are no other round-trip time's. -/
theorem littleEndian_eq_iff_negativeZero {rtt : Rtt} :
    littleEndian 4 rtt.bits.toNat = [0, 0, 0, 0x80] ↔ rtt = Rtt.negativeZero := by
  constructor
  · intro h
    have hbits := ofNat_littleEndian_uint32 rtt.bits
    rw [h] at hbits
    exact congrArg Rtt.mk hbits.symm
  · rintro rfl
    rfl

/-- What is done to the bytes of a record gives the bytes of its plain form. -/
theorem unsignZero_bytes (p : PeerStat) : unsignZero p.bytes = p.plain.bytes := by
  have hfront : p.bytes.take 4 = littleEndian 4 p.id.toNat := by
    rw [bytes_eq_append, List.take_left' (length_littleEndian 4 _)]
  have hdrop : p.bytes.drop 4
      = littleEndian 4 p.rtt.bits.toNat ++ littleEndian 4 p.losses.toNat := by
    rw [bytes_eq_append, List.drop_left' (length_littleEndian 4 _)]
  have hfield : (p.bytes.drop 4).take 4 = littleEndian 4 p.rtt.bits.toNat := by
    rw [hdrop, List.take_left' (length_littleEndian 4 _)]
  have hback : p.bytes.drop 8 = littleEndian 4 p.losses.toNat := by
    rw [show (8 : ℕ) = 4 + 4 from rfl, ← List.drop_drop, hdrop,
      List.drop_left' (length_littleEndian 4 _)]
  unfold unsignZero
  rw [hfield, hfront, hback, bytes_eq_append p.plain]
  by_cases hzero : p.rtt = Rtt.negativeZero
  · have hplain : p.plain.rtt = ⟨0⟩ := if_pos hzero
    rw [if_pos (littleEndian_eq_iff_negativeZero.mpr hzero), hplain]
    rfl
  · have hplain : p.plain = p := by rw [plain, Rtt.plain, if_neg hzero]
    rw [if_neg (mt littleEndian_eq_iff_negativeZero.mp hzero), hplain, bytes_eq_append]

theorem unsignZeros_flatMap_bytes (peers : List PeerStat) :
    unsignZeros peers.length (peers.flatMap bytes) = (peers.map plain).flatMap bytes := by
  induction peers with
  | nil => rfl
  | cons p peers ih =>
    rw [List.flatMap_cons, List.length_cons, unsignZeros, List.take_left' (length_bytes p),
      List.drop_left' (length_bytes p), unsignZero_bytes, ih, List.map_cons, List.flatMap_cons]

end PeerStat

/-! ## Reports -/

namespace Report

variable {a b : Report}

/-- The plain form of a report. -/
def plain (r : Report) : Report where
  source := r.source
  sequence := r.sequence
  peers := r.peers.map PeerStat.plain
  peers_length_le := (List.length_map _).trans_le r.peers_length_le

/-- A report without a NaN. -/
def NaNFree (r : Report) : Prop := ∀ p ∈ r.peers, p.rtt.isNaN = false

instance (r : Report) : Decidable r.NaNFree :=
  inferInstanceAs (Decidable (∀ p ∈ r.peers, p.rtt.isNaN = false))

/-- **Zero in the place of the negative zero**, wherever a round-trip time is in the bytes of a
report. -/
def unsignZeros (p : List UInt8) : List UInt8 :=
  p.take Header.size
    ++ PeerStat.unsignZeros ((p.length - Header.size) / PeerStat.size) (p.drop Header.size)

/-- **To have the same numbers is to have the same plain form**, where there is no NaN. -/
theorem sameValue_iff_plain :
    a.sameValue b = true ↔ a.NaNFree ∧ b.NaNFree ∧ a.plain = b.plain := by
  have hpeers := PeerStat.all_sameValue_iff_plain a.peers b.peers
  simp only [sameValue, Bool.and_eq_true, decide_eq_true_eq, and_assoc, hpeers, plain,
    Report.mk.injEq, NaNFree]
  tauto

/-- What is done to the bytes of a report gives the bytes of its plain form. -/
theorem unsignZeros_bytes (r : Report) : unsignZeros r.bytes = r.plain.bytes := by
  have hcount : (r.bytes.length - Header.size) / PeerStat.size = r.peers.length := by
    rw [length_bytes, encodedLength, Nat.add_sub_cancel_left]
    exact Nat.mul_div_cancel _ (by decide)
  unfold unsignZeros
  rw [hcount, bytes_eq_frame, bytes_eq_frame, frame, frame, List.append_nil, List.append_nil,
    List.take_left' (Header.length_spelling _ _ _), List.drop_left' (Header.length_spelling _ _ _),
    PeerStat.unsignZeros_flatMap_bytes]
  have hplain : r.plain.count = r.count := congrArg UInt8.ofNat (List.length_map _)
  rw [hplain]
  rfl

/-- **A report is determined by its bytes.** -/
theorem bytes_injective : Function.Injective bytes := by
  intro a b h
  have hdecode := decode_bytes .strict a
  rw [h, decode_bytes] at hdecode
  exact (Except.ok.inj hdecode).symm

/-- **The same numbers and the same bytes.** Two reports have the same numbers if and only if there
is no NaN in either and their bytes are the same once zero stands in the place of every negative
zero. So the comparison is symmetric and transitive, and it is reflexive on the reports without a
NaN. These are the reports that come back from their bytes, as far as the comparison can tell, under
either policy. -/
theorem sameValue_iff_bytes :
    (∀ a b : Report, a.sameValue b = true
        ↔ a.NaNFree ∧ b.NaNFree ∧ unsignZeros a.bytes = unsignZeros b.bytes)
      ∧ (∀ a b : Report, a.sameValue b = true → b.sameValue a = true)
      ∧ (∀ a b c : Report, a.sameValue b = true → b.sameValue c = true → a.sameValue c = true)
      ∧ (∀ r : Report, r.sameValue r = true ↔ r.NaNFree)
      ∧ ∀ (policy : DecodePolicy) (r : Report),
        (∃ d, decode policy r.bytes = .ok d ∧ d.sameValue r = true) ↔ r.NaNFree := by
  have hself : ∀ r : Report, r.sameValue r = true ↔ r.NaNFree := fun r => by
    rw [sameValue_iff_plain, eq_self, and_true, and_self]
  refine ⟨fun a b => ?_, fun a b h => ?_, fun a b c h h' => ?_, hself, fun policy r => ?_⟩
  · rw [sameValue_iff_plain, unsignZeros_bytes, unsignZeros_bytes, bytes_injective.eq_iff]
  · obtain ⟨ha, hb, hplain⟩ := sameValue_iff_plain.mp h
    exact sameValue_iff_plain.mpr ⟨hb, ha, hplain.symm⟩
  · obtain ⟨ha, -, hplain⟩ := sameValue_iff_plain.mp h
    obtain ⟨-, hc, hplain'⟩ := sameValue_iff_plain.mp h'
    exact sameValue_iff_plain.mpr ⟨ha, hc, hplain.trans hplain'⟩
  · rw [decode_bytes, ← hself]
    constructor
    · rintro ⟨d, hd, hsame⟩
      obtain rfl := Except.ok.inj hd
      exact hsame
    · exact fun hsame => ⟨r, rfl, hsame⟩

/-- A report of one peer, at a distance of zero. -/
def ofZero (zero : Rtt) : Report := ⟨7, 42, [⟨1, zero, 3⟩], show 1 ≤ maxPeers by decide⟩

/-- The two zeros are the same number with different bytes, and a report with a NaN is the same
as none, not even as itself. -/
theorem sameValue_iff_bytes_of_zeros :
    (ofZero ⟨0⟩).bytes ≠ (ofZero Rtt.negativeZero).bytes
      ∧ (ofZero ⟨0⟩).sameValue (ofZero Rtt.negativeZero) = true
      ∧ (ofZero Rtt.negativeZero).sameValue (ofZero ⟨0⟩) = true
      ∧ keptOfBrokenOff.sameValue keptOfBrokenOff = false := by
  obtain ⟨hiff, hsymm, -, hself, -⟩ := sameValue_iff_bytes
  have hsame : (ofZero ⟨0⟩).sameValue (ofZero Rtt.negativeZero) = true :=
    (hiff _ _).mpr ⟨by decide, by decide, by decide⟩
  have hnan : ¬keptOfBrokenOff.NaNFree := by decide
  exact ⟨by decide, hsame, hsymm _ _ hsame, Bool.eq_false_iff.mpr (mt (hself _).mp hnan)⟩

end Report

end PeerTelemetry
