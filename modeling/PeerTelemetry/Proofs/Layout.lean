import Mathlib.Tactic.Set
import PeerTelemetry.Report.Wire

/-!
# The layout of a datagram

Every string of bytes that reaches the decoder is one of three things
(`layout`): too short for a header, a header's worth of bytes under a foreign
tag, or the **frame** of a report – a header, the whole records of that report,
and what is left over behind them. The header of a frame may declare more
records than the frame carries, its reserved bytes may hold anything, and bytes
may follow the last record; the one thing that ties the records to the header
is that they *exhaust* what it declares, in that all of the declared records
are there or less than a whole one is left over (`Report.Exhausts`).

With the layout known the decoder is a table. Both policies reject the first two
kinds alike, the lenient decoder returns the report of any frame
(`decode_lenient_frame`), and the strict one compares the declared count and
the bytes left over (`decode_strict_frame`). Claims about decoding are read off
that table; the loop of the decoder is opened here and nowhere else.
-/

namespace PeerTelemetry

/-! ## Words and records -/

/-- A 32-bit word is spelled by its own four bytes. -/
theorem ofNat_littleEndian_uint32 (w : UInt32) :
    UInt32.ofNat (ofLittleEndian (littleEndian 4 w.toNat)) = w := by
  have hlt : w.toNat < 256 ^ 4 := by simpa using w.toNat_lt
  rw [ofLittleEndian_littleEndian, Nat.mod_eq_of_lt hlt, UInt32.ofNat_toNat]

/-- A 64-bit word is spelled by its own eight bytes. -/
theorem ofNat_littleEndian_uint64 (w : UInt64) :
    UInt64.ofNat (ofLittleEndian (littleEndian 8 w.toNat)) = w := by
  have hlt : w.toNat < 256 ^ 8 := by simpa using w.toNat_lt
  rw [ofLittleEndian_littleEndian, Nat.mod_eq_of_lt hlt, UInt64.ofNat_toNat]

/-- Bytes are the bytes of the number they spell, at their own width. -/
theorem littleEndian_ofLittleEndian_of_length_eq {n : Nat} {p : List UInt8} (h : p.length = n) :
    littleEndian n (ofLittleEndian p) = p := by
  subst h
  exact littleEndian_ofLittleEndian p

/-- Four bytes are the bytes of the word they spell. -/
theorem littleEndian_toNat_uint32 {p : List UInt8} (h : p.length = 4) :
    littleEndian 4 (UInt32.ofNat (ofLittleEndian p)).toNat = p := by
  have hlt : ofLittleEndian p < 2 ^ 32 := by simpa [h] using ofLittleEndian_lt p
  rw [UInt32.toNat_ofNat', Nat.mod_eq_of_lt hlt, littleEndian_ofLittleEndian_of_length_eq h]

/-- Eight bytes are the bytes of the word they spell. -/
theorem littleEndian_toNat_uint64 {p : List UInt8} (h : p.length = 8) :
    littleEndian 8 (UInt64.ofNat (ofLittleEndian p)).toNat = p := by
  have hlt : ofLittleEndian p < 2 ^ 64 := by simpa [h] using ofLittleEndian_lt p
  rw [UInt64.toNat_ofNat', Nat.mod_eq_of_lt hlt, littleEndian_ofLittleEndian_of_length_eq h]

namespace PeerStat

/-- Appending a record appends its bytes. -/
theorem encodeInto_eq (buffer : List UInt8) (s : PeerStat) :
    encodeInto buffer s = buffer ++ s.bytes := by
  simp only [bytes, encodeInto, List.nil_append, List.append_assoc]

@[simp] theorem length_bytes (s : PeerStat) : s.bytes.length = size := by
  simp [bytes, encodeInto, size]

/-- The records of a list take their size each. -/
@[simp] theorem length_flatMap_bytes (peers : List PeerStat) :
    (peers.flatMap bytes).length = peers.length * size := by
  induction peers with
  | nil => rfl
  | cons s peers ih =>
    rw [List.flatMap_cons, List.length_append, ih, length_bytes, List.length_cons,
      Nat.succ_mul, Nat.add_comm]

/-- **A record is spelled by its own bytes**, whatever follows them. -/
theorem ofBytes_bytes_append (s : PeerStat) (rest : List UInt8) :
    ofBytes (s.bytes ++ rest) = s := by
  have hdrop4 : (s.bytes ++ rest).drop 4
      = littleEndian 4 s.rtt.bits.toNat ++ (littleEndian 4 s.losses.toNat ++ rest) := by
    simp only [bytes, encodeInto, List.nil_append, List.append_assoc]
    exact List.drop_left' (length_littleEndian 4 _)
  have hdrop8 : (s.bytes ++ rest).drop 8 = littleEndian 4 s.losses.toNat ++ rest := by
    rw [show (8 : Nat) = 4 + 4 from rfl, ← List.drop_drop, hdrop4]
    exact List.drop_left' (length_littleEndian 4 _)
  have htake : (s.bytes ++ rest).take 4 = littleEndian 4 s.id.toNat := by
    simp only [bytes, encodeInto, List.nil_append, List.append_assoc]
    exact List.take_left' (length_littleEndian 4 _)
  unfold ofBytes
  rw [htake, hdrop4, hdrop8, List.take_left' (length_littleEndian 4 _),
    List.take_left' (length_littleEndian 4 _)]
  simp only [ofNat_littleEndian_uint32]

/-- Twelve bytes are the bytes of the record they spell. -/
theorem bytes_ofBytes {p : List UInt8} (h : size ≤ p.length) : (ofBytes p).bytes = p.take size := by
  have h12 : 12 ≤ p.length := h
  unfold ofBytes bytes encodeInto
  rw [littleEndian_toNat_uint32 (by rw [List.length_take]; omega),
    littleEndian_toNat_uint32 (by rw [List.length_take, List.length_drop]; omega),
    littleEndian_toNat_uint32 (by rw [List.length_take, List.length_drop]; omega),
    List.nil_append]
  rw [← List.take_add, ← List.take_add]
  rfl

/-- **Records are read back**, as many as were asked for, or as many as there are
if less than a whole one is left behind them. -/
theorem readUpTo_flatMap_bytes (peers : List PeerStat) (rest : List UInt8) (n : Nat)
    (h : peers.length = n ∨ peers.length < n ∧ rest.length < size) :
    ∃ hle : peers.length ≤ n,
      readUpTo n (peers.flatMap bytes ++ rest) = some (⟨peers, hle⟩, rest) := by
  -- The loop stops for one of two reasons, and the hypothesis on the count names both; it
  -- passes to the tail unchanged, one record down on either side.
  induction peers generalizing n with
  | nil =>
    refine ⟨Nat.zero_le n, ?_⟩
    rcases h with rfl | ⟨-, hrest⟩
    · rfl
    · exact readUpTo_of_length_lt n hrest
  | cons s peers ih =>
    cases n with
    | zero => simp at h
    | succ n =>
      obtain ⟨hle, hread⟩ := ih n (by simpa using h)
      refine ⟨Nat.succ_le_succ hle, ?_⟩
      have hwhole : size ≤ ((s :: peers).flatMap bytes ++ rest).length := by
        simp only [List.flatMap_cons, List.length_append, length_bytes]
        omega
      have hdrop : ((s :: peers).flatMap bytes ++ rest).drop size
          = peers.flatMap bytes ++ rest := by
        rw [List.flatMap_cons, List.append_assoc]
        exact List.drop_left' (length_bytes s)
      have hfirst : ofBytes ((s :: peers).flatMap bytes ++ rest) = s := by
        rw [List.flatMap_cons, List.append_assoc, ofBytes_bytes_append]
      rw [readUpTo_succ_of_le hwhole (hdrop ▸ hread)]
      simp only [hfirst]

/-- **Any bytes are records and a remainder**: up to a given number of whole
records, and then less than a whole one if there are fewer. -/
theorem exists_flatMap_bytes (n : Nat) (p : List UInt8) :
    ∃ (peers : List PeerStat) (rest : List UInt8), p = peers.flatMap bytes ++ rest
      ∧ (peers.length = n ∨ peers.length < n ∧ rest.length < size) := by
  induction n generalizing p with
  | zero => exact ⟨[], p, rfl, Or.inl rfl⟩
  | succ n ih =>
    by_cases h : p.length < size
    · exact ⟨[], p, rfl, Or.inr ⟨Nat.succ_pos n, h⟩⟩
    · obtain ⟨peers, rest, hp, hcount⟩ := ih (p.drop size)
      refine ⟨ofBytes p :: peers, rest, ?_, ?_⟩
      · rw [List.flatMap_cons, bytes_ofBytes (Nat.not_lt.mp h), List.append_assoc, ← hp,
          List.take_append_drop]
      · simpa using hcount

end PeerStat

/-! ## Headers -/

namespace Header

/-- **A spelling of a header**: its bytes, with anything in the two reserved
places. -/
def spelling (h : Header) (low high : UInt8) : List UInt8 :=
  [reportTag, h.peerCount, low, high] ++ littleEndian 4 h.source.toNat
    ++ littleEndian 8 h.sequence.toNat

/-- Appending a header appends the spelling with nothing in the reserved
places. -/
theorem encodeInto_eq (buffer : List UInt8) (h : Header) :
    encodeInto buffer h = buffer ++ h.spelling 0 0 := by
  simp only [encodeInto, spelling, List.append_assoc]
  rfl

@[simp] theorem length_spelling (h : Header) (low high : UInt8) :
    (h.spelling low high).length = size := by
  simp [spelling, size]

/-- **Every spelling of a header is read as that header**, and what follows it
is left unread. -/
theorem read_spelling (h : Header) (low high : UInt8) (rest : List UInt8) :
    read (h.spelling low high ++ rest) = some (.ok h, rest) := by
  have hlen : size ≤ (h.spelling low high ++ rest).length := by
    rw [List.length_append, length_spelling]
    exact Nat.le_add_right _ _
  have hform : h.spelling low high ++ rest
      = reportTag :: h.peerCount :: ([low, high] ++ (littleEndian 4 h.source.toNat
        ++ (littleEndian 8 h.sequence.toNat ++ rest))) := by
    simp only [spelling, List.append_assoc]
    rfl
  rw [hform] at hlen ⊢
  rw [read_of_tag hlen]
  set body := [low, high] ++ (littleEndian 4 h.source.toNat
    ++ (littleEndian 8 h.sequence.toNat ++ rest))
  have h2 : body.drop 2
      = littleEndian 4 h.source.toNat ++ (littleEndian 8 h.sequence.toNat ++ rest) := rfl
  have h6 : body.drop 6 = littleEndian 8 h.sequence.toNat ++ rest := by
    rw [show (6 : Nat) = 2 + 4 from rfl, ← List.drop_drop, h2]
    exact List.drop_left' (length_littleEndian 4 _)
  have h14 : body.drop 14 = rest := by
    rw [show (14 : Nat) = 6 + 8 from rfl, ← List.drop_drop, h6]
    exact List.drop_left' (length_littleEndian 8 _)
  rw [h2, h6, h14, List.take_left' (length_littleEndian 4 _),
    List.take_left' (length_littleEndian 8 _), ofNat_littleEndian_uint32,
    ofNat_littleEndian_uint64]

/-- **A header's worth of bytes under the right tag spells a header.** -/
theorem exists_spelling {body : List UInt8} (h : size ≤ (reportTag :: body).length) :
    ∃ (header : Header) (low high : UInt8) (rest : List UInt8),
      reportTag :: body = header.spelling low high ++ rest := by
  match body with
  | [] => simp [size] at h
  | [_] => simp [size] at h
  | [_, _] => simp [size] at h
  | count :: low :: high :: words =>
    have hwords : 12 ≤ words.length := by
      simp only [size, List.length_cons] at h
      omega
    refine ⟨⟨count, UInt32.ofNat (ofLittleEndian (words.take 4)),
      UInt64.ofNat (ofLittleEndian ((words.drop 4).take 8))⟩, low, high, words.drop 12, ?_⟩
    unfold spelling
    rw [littleEndian_toNat_uint32 (by rw [List.length_take]; omega),
      littleEndian_toNat_uint64 (by rw [List.length_take, List.length_drop]; omega),
      List.append_assoc, List.append_assoc, ← List.append_assoc (words.take 4), ← List.take_add,
      List.take_append_drop]
    rfl

end Header

/-! ## Frames -/

namespace Report

/-- **A frame of a report**: a header that names its source and its sequence
number and declares any count of records, anything in the reserved places, the
records of the report, and anything left over behind them. -/
def frame (r : Report) (declared low high : UInt8) (rest : List UInt8) : List UInt8 :=
  Header.spelling ⟨declared, r.source, r.sequence⟩ low high
    ++ (r.peers.flatMap PeerStat.bytes ++ rest)

/-- **The records of a report exhaust what its frame declares**: all that are
declared are there, or less than a whole record is left over. -/
def Exhausts (r : Report) (declared : UInt8) (rest : List UInt8) : Prop :=
  r.peers.length = declared.toNat
    ∨ r.peers.length < declared.toNat ∧ rest.length < PeerStat.size

/-- A frame that declares no more records than it has declares those it has. -/
theorem Exhausts.length_eq {r : Report} {declared : UInt8} {rest : List UInt8}
    (hex : r.Exhausts declared rest) (h : ¬ r.peers.length < declared.toNat) :
    r.peers.length = declared.toNat :=
  hex.resolve_right fun hfew => h hfew.1

/-- The byte holds the whole count. -/
@[simp] theorem toNat_count (r : Report) : r.count.toNat = r.peers.length := by
  have hle : r.peers.length ≤ 255 := r.peers_length_le
  rw [count, UInt8.toNat_ofNat', Nat.mod_eq_of_lt (by omega)]

/-- Appending a report appends its records behind its header. -/
theorem encodeInto_eq (buffer : List UInt8) (r : Report) :
    encodeInto buffer r = buffer ++ r.frame r.count 0 0 [] := by
  have hfold : ∀ (peers : List PeerStat) (front : List UInt8),
      peers.foldl PeerStat.encodeInto front = front ++ peers.flatMap PeerStat.bytes := by
    intro peers
    induction peers with
    | nil => intro front; exact (List.append_nil front).symm
    | cons s peers ih =>
      intro front
      rw [List.foldl_cons, ih, PeerStat.encodeInto_eq, List.flatMap_cons, List.append_assoc]
  rw [encodeInto, hfold, Header.encodeInto_eq, List.append_assoc, frame, List.append_nil]
  rfl

/-- The bytes of a report are the frame with nothing odd about it. -/
theorem bytes_eq_frame (r : Report) : r.bytes = r.frame r.count 0 0 [] := by
  rw [bytes, encodeInto_eq, List.nil_append]

/-- What follows the bytes of a report is what is left over in its frame. -/
theorem bytes_append (r : Report) (tail : List UInt8) :
    r.bytes ++ tail = r.frame r.count 0 0 tail := by
  simp only [bytes_eq_frame, frame, List.append_assoc, List.nil_append]

theorem encodedLength_eq (r : Report) : r.encodedLength = 16 + 12 * r.peers.length := by
  rw [encodedLength, Nat.mul_comm]
  rfl

/-- The longest report has 3076 bytes. -/
theorem encodedLength_le (r : Report) : r.encodedLength ≤ 3076 := by
  have hpeers : r.peers.length ≤ 255 := r.peers_length_le
  rw [encodedLength_eq]
  omega

@[simp] theorem length_frame (r : Report) (declared low high : UInt8) (rest : List UInt8) :
    (r.frame declared low high rest).length = r.encodedLength + rest.length := by
  simp only [frame, List.length_append, Header.length_spelling, PeerStat.length_flatMap_bytes,
    encodedLength]
  omega

/-- What is left over stands behind all else of a frame. -/
theorem frame_eq_append (r : Report) (declared low high : UInt8) (rest : List UInt8) :
    r.frame declared low high rest = r.frame declared low high [] ++ rest := by
  simp only [frame, List.append_assoc, List.nil_append]

/-- Behind its report a frame has what is left over. -/
theorem drop_frame (r : Report) (declared low high : UInt8) (rest : List UInt8) :
    (r.frame declared low high rest).drop r.encodedLength = rest := by
  rw [frame_eq_append]
  exact List.drop_left' (length_frame r declared low high [])

/-- The bytes of a report are as many as its encoded length. -/
@[simp] theorem length_bytes (r : Report) : r.bytes.length = r.encodedLength := by
  rw [bytes_eq_frame, length_frame]
  exact Nat.add_zero _

@[simp] theorem getElem?_one_frame (r : Report) (declared low high : UInt8)
    (rest : List UInt8) : (r.frame declared low high rest)[1]? = some declared := rfl

end Report

/-- **What a datagram can be.** -/
inductive Layout : List UInt8 → Prop
  /-- There is no room for a header. -/
  | short {p : List UInt8} : p.length < Header.size → Layout p
  /-- There is room for a header, but the tag is another. -/
  | foreign {tag : UInt8} {body : List UInt8} :
    tag ≠ reportTag → Header.size ≤ (tag :: body).length → Layout (tag :: body)
  /-- It is the frame of a report. -/
  | frame (r : Report) (declared low high : UInt8) (rest : List UInt8) :
    r.Exhausts declared rest → Layout (r.frame declared low high rest)

/-- **Every string of bytes is one of the three.** -/
theorem layout (p : List UInt8) : Layout p := by
  by_cases hlen : p.length < Header.size
  · exact Layout.short hlen
  cases p with
  | nil => exact absurd (by decide) hlen
  | cons tag body =>
    by_cases htag : tag = reportTag
    · subst htag
      obtain ⟨h, low, high, records, hp⟩ := Header.exists_spelling (Nat.not_lt.mp hlen)
      obtain ⟨peers, rest, hrecords, hcount⟩ :=
        PeerStat.exists_flatMap_bytes h.peerCount.toNat records
      have hle : peers.length ≤ maxPeers := by
        have hbyte := h.peerCount.toNat_lt
        unfold maxPeers
        omega
      rw [hp, hrecords]
      exact Layout.frame ⟨h.source, h.sequence, peers, hle⟩ h.peerCount low high rest hcount
    · exact Layout.foreign htag (Nat.not_lt.mp hlen)

/-! ## What the decoder answers -/

namespace Report

/-- A header's worth of bytes under the tag of a report is a frame. -/
theorem exists_eq_frame {p : List UInt8} (hlen : 16 ≤ p.length) (htag : p[0]? = some reportTag) :
    ∃ (r : Report) (declared low high : UInt8) (rest : List UInt8),
      p = r.frame declared low high rest ∧ r.Exhausts declared rest := by
  cases layout p with
  | short hshort => exact absurd hlen (Nat.not_le.mpr hshort)
  | foreign hforeign _ => exact absurd (Option.some.inj htag) hforeign
  | frame r declared low high rest hex => exact ⟨r, declared, low, high, rest, rfl, hex⟩

/-- Too short a datagram is rejected for its length. -/
theorem decode_of_length_lt (policy : DecodePolicy) {p : List UInt8}
    (h : p.length < Header.size) : decode policy p = .error (.tooShort p.length) := by
  have hread : read policy p = some (.error (.tooShort p.length), p) := by
    unfold read
    exact Decoder.bind_error (Header.read_of_length_lt h)
  exact decode_eq_of_read hread

/-- A datagram under a foreign tag is rejected for its tag. -/
theorem decode_of_ne_tag (policy : DecodePolicy) {tag : UInt8} {body : List UInt8}
    (htag : tag ≠ reportTag) (h : Header.size ≤ (tag :: body).length) :
    decode policy (tag :: body) = .error (.wrongType tag) := by
  have hread : read policy (tag :: body) = some (.error (.wrongType tag), body) := by
    unfold read
    exact Decoder.bind_error (Header.read_of_ne_tag h htag)
  exact decode_eq_of_read hread

/-- A frame is read as its report once its length has met the demand of the
policy, and what is left over is left unread. -/
theorem read_frame_of_demand {policy : DecodePolicy} {r : Report} {declared : UInt8}
    {rest : List UInt8} (low high : UInt8) (hex : r.Exhausts declared rest)
    (hdemand : demand policy declared (r.peers.flatMap PeerStat.bytes ++ rest)
      = some (.ok (), r.peers.flatMap PeerStat.bytes ++ rest)) :
    read policy (r.frame declared low high rest) = some (.ok r, rest) := by
  obtain ⟨hle, hpeers⟩ := PeerStat.readUpTo_flatMap_bytes r.peers rest declared.toNat hex
  unfold read frame
  rw [Decoder.bind_ok (Header.read_spelling _ low high _), Decoder.bind_ok hdemand,
    Decoder.bind_reader hpeers]
  exact Decoder.pure_apply _

/-- A frame that meets the demand of the policy is decoded to its report. -/
theorem decode_frame_of_demand {policy : DecodePolicy} {r : Report} {declared : UInt8}
    {rest : List UInt8} (low high : UInt8) (hex : r.Exhausts declared rest)
    (hdemand : demand policy declared (r.peers.flatMap PeerStat.bytes ++ rest)
      = some (.ok (), r.peers.flatMap PeerStat.bytes ++ rest)) :
    decode policy (r.frame declared low high rest) = .ok r :=
  decode_eq_of_read (read_frame_of_demand low high hex hdemand)

/-- A frame is rejected for the demand of the policy that its length does not
meet. -/
theorem decode_frame_of_demand_error {policy : DecodePolicy} (r : Report) {declared : UInt8}
    {rest : List UInt8} (low high : UInt8) {reason : RejectReason}
    (hdemand : demand policy declared (r.peers.flatMap PeerStat.bytes ++ rest)
      = some (.error reason, r.peers.flatMap PeerStat.bytes ++ rest)) :
    decode policy (r.frame declared low high rest) = .error reason := by
  have hread : read policy (r.frame declared low high rest)
      = some (.error reason, r.peers.flatMap PeerStat.bytes ++ rest) := by
    unfold read frame
    rw [Decoder.bind_ok (Header.read_spelling _ low high _)]
    exact Decoder.bind_error hdemand
  exact decode_eq_of_read hread

/-- **What is accepted is a frame** of the report it is accepted as, and has met the demand of the
policy. -/
theorem exists_eq_frame_of_decode_eq_ok {policy : DecodePolicy} {p : List UInt8} {r : Report}
    (h : decode policy p = .ok r) :
    ∃ (declared low high : UInt8) (rest : List UInt8),
      p = r.frame declared low high rest ∧ r.Exhausts declared rest
        ∧ demand policy declared (r.peers.flatMap PeerStat.bytes ++ rest)
          = some (.ok (), r.peers.flatMap PeerStat.bytes ++ rest) := by
  cases layout p with
  | short hlen => rw [decode_of_length_lt _ hlen] at h; cases h
  | foreign htag hlen => rw [decode_of_ne_tag _ htag hlen] at h; cases h
  | frame r' declared low high rest hex =>
    obtain ⟨result, hdemand⟩ :=
      exists_demand policy declared (r'.peers.flatMap PeerStat.bytes ++ rest)
    cases result with
    | error reason => rw [decode_frame_of_demand_error r' low high hdemand] at h; cases h
    | ok _ =>
      rw [decode_frame_of_demand low high hex hdemand] at h
      obtain rfl := Except.ok.inj h
      exact ⟨declared, low, high, rest, rfl, hex, hdemand⟩

/-- There is no more in a report than there are bytes for. -/
theorem length_le_of_decode_eq_ok {policy : DecodePolicy} {p : List UInt8} {r : Report}
    (h : decode policy p = .ok r) : 16 + 12 * r.peers.length ≤ p.length := by
  obtain ⟨declared, low, high, rest, rfl, -⟩ := exists_eq_frame_of_decode_eq_ok h
  rw [length_frame, encodedLength_eq]
  exact Nat.le_add_right _ _

/-- **The strict demand in closed form.** The bytes behind the header are too
few, too many, or as many as declared. -/
theorem checkLength_apply (declared : UInt8) (p : List UInt8) :
    checkLength declared p
      = some (if p.length < declared.toNat * PeerStat.size then
            .error (.truncated declared (p.length / PeerStat.size))
          else if declared.toNat * PeerStat.size < p.length then
            .error (.trailingBytes (p.length - declared.toNat * PeerStat.size))
          else .ok (), p) := by
  unfold checkLength
  rw [Decoder.bind_reader (Reader.remaining_apply p)]
  split
  · exact Decoder.throw_apply _
  · split
    · rename_i hmore
      rw [Decoder.bind_reader (Reader.difference_of_le (Nat.le_of_lt hmore) p)]
      exact Decoder.throw_apply _
    · exact Decoder.pure_apply _

/-- **The lenient decoder returns the report of any frame.** -/
theorem decode_lenient_frame {r : Report} {declared : UInt8} {rest : List UInt8}
    (low high : UInt8) (hex : r.Exhausts declared rest) :
    decode .lenient (r.frame declared low high rest) = .ok r :=
  decode_frame_of_demand low high hex rfl

/-- **The strict decoder returns the report of a frame** that declares its
records and ends behind them. It rejects a frame that declares more, and else
one that goes on. -/
theorem decode_strict_frame {r : Report} {declared : UInt8} {rest : List UInt8}
    (low high : UInt8) (hex : r.Exhausts declared rest) :
    decode .strict (r.frame declared low high rest)
      = if r.peers.length < declared.toNat then .error (.truncated declared r.peers.length)
        else if rest = [] then .ok r else .error (.trailingBytes rest.length) := by
  have hlen : (r.peers.flatMap PeerStat.bytes ++ rest).length
      = r.peers.length * PeerStat.size + rest.length := by
    rw [List.length_append, PeerStat.length_flatMap_bytes]
  have hdemand := checkLength_apply declared (r.peers.flatMap PeerStat.bytes ++ rest)
  rw [hlen] at hdemand
  unfold PeerStat.size at hdemand
  rcases hex with hall | ⟨hfew, hrest⟩
  · rw [if_neg (by omega)]
    rw [hall, if_neg (by omega)] at hdemand
    by_cases hnil : rest = []
    · subst hnil
      rw [if_pos rfl]
      rw [if_neg (by simp)] at hdemand
      exact decode_frame_of_demand low high (Or.inl hall) hdemand
    · rw [if_neg hnil]
      have hpos : 0 < rest.length := List.length_pos_iff.mpr hnil
      rw [if_pos (by omega), Nat.add_sub_cancel_left] at hdemand
      exact decode_frame_of_demand_error r low high hdemand
  · rw [if_pos hfew]
    -- The rejection divides all the bytes behind the header by the size of a record; what is
    -- left over is less than one and does not count.
    unfold PeerStat.size at hrest
    have hdiv : (r.peers.length * 12 + rest.length) / 12 = r.peers.length := by omega
    rw [if_pos (by omega), hdiv] at hdemand
    exact decode_frame_of_demand_error r low high hdemand

/-- A frame is accepted when it declares its records and ends behind them. -/
theorem decode_strict_frame_eq_ok_iff {r : Report} {declared : UInt8} {rest : List UInt8}
    (low high : UInt8) (hex : r.Exhausts declared rest) {r' : Report} :
    decode .strict (r.frame declared low high rest) = .ok r'
      ↔ rest = [] ∧ declared.toNat = r.peers.length ∧ r' = r := by
  rw [decode_strict_frame low high hex]
  constructor
  · intro h
    split at h
    · cases h
    · rename_i hall
      split at h
      · rename_i hnil
        cases h
        exact ⟨hnil, (hex.length_eq hall).symm, rfl⟩
      · cases h
  · rintro ⟨hnil, hall, rfl⟩
    rw [if_neg (by omega), if_pos hnil]

/-- **What the lenient decoder accepts** are the frames of the report it
returns. -/
theorem decode_lenient_eq_ok_iff {p : List UInt8} {r : Report} :
    decode .lenient p = .ok r
      ↔ ∃ (declared low high : UInt8) (rest : List UInt8),
          p = r.frame declared low high rest ∧ r.Exhausts declared rest := by
  constructor
  · intro h
    obtain ⟨declared, low, high, rest, hp, hex, -⟩ := exists_eq_frame_of_decode_eq_ok h
    exact ⟨declared, low, high, rest, hp, hex⟩
  · rintro ⟨declared, low, high, rest, rfl, hex⟩
    exact decode_lenient_frame low high hex

/-- **What the strict decoder accepts** are the frames that declare the records
they carry and end behind them. -/
theorem decode_strict_eq_ok_iff {p : List UInt8} {r : Report} :
    decode .strict p = .ok r ↔ ∃ low high : UInt8, p = r.frame r.count low high [] := by
  constructor
  · intro h
    obtain ⟨declared, low, high, rest, rfl, hex, -⟩ := exists_eq_frame_of_decode_eq_ok h
    obtain ⟨rfl, hall, -⟩ := (decode_strict_frame_eq_ok_iff low high hex).mp h
    have hcount : declared = r.count := by
      apply UInt8.toNat_inj.mp
      rw [toNat_count, hall]
    exact ⟨low, high, by rw [hcount]⟩
  · rintro ⟨low, high, rfl⟩
    exact (decode_strict_frame_eq_ok_iff low high (Or.inl (toNat_count r).symm)).mpr
      ⟨rfl, toNat_count r, rfl⟩

/-- **Either decoder reads a report from its bytes.** -/
theorem decode_bytes (policy : DecodePolicy) (r : Report) : decode policy r.bytes = .ok r := by
  cases policy with
  | lenient =>
    rw [bytes_eq_frame]
    exact decode_lenient_frame 0 0 (Or.inl (toNat_count r).symm)
  | strict => exact decode_strict_eq_ok_iff.mpr ⟨0, 0, bytes_eq_frame r⟩

/-- A datagram that declares three records, has something in the reserved places
and breaks off inside its second record. -/
def brokenOff : List UInt8 :=
  [20, 3, 0xFF, 0xEE, 7, 0, 0, 0, 42, 0, 0, 0, 0, 0, 0, 0,
    1, 0, 0, 0, 1, 0, 0xC0, 0x7F, 3, 0, 0, 0, 9, 9, 9]

/-- What is kept of the datagram that breaks off. -/
def keptOfBrokenOff : Report := ⟨7, 42, [⟨1, ⟨0x7FC00001⟩, 3⟩], by decide⟩

end Report

end PeerTelemetry
