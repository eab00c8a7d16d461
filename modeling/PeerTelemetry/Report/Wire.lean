import PeerTelemetry.Bytes
import PeerTelemetry.Report.Basic

/-!
# Reports on the wire

A report is a header of 16 bytes and then 12 bytes for each peer, all words
least significant byte first:

* a tag byte, which is 20 for a report and the only tag there is;
* the count of the peers that follow, one byte;
* two reserved bytes, written as zero and not looked at;
* the id of the reporting node, four bytes, and its sequence number, eight;
* per peer its id, its round-trip time and its losses, four bytes each.

A datagram may be damaged, and how much damage is put up with is the
`DecodePolicy`. The lenient decoder keeps every whole record and asks no
questions; the strict one wants exactly the bytes the header promises. Neither
can be made to fail in any way but by one of the four `RejectReason`s: the
decoder is written with readers that fault at the end of the bytes, and
`Report.isSome_read` says that none of them ever does.
-/

namespace PeerTelemetry

/-! ## Rejections -/

/-- **Why a datagram is not a report.** -/
inductive RejectReason
  /-- There are fewer bytes than a header has. -/
  | tooShort (length : Nat)
  /-- The tag is not that of a report. -/
  | wrongType (tag : UInt8)
  /-- Fewer whole records are there than the header declares. -/
  | truncated (declared : UInt8) (complete : Nat)
  /-- Bytes follow the last declared record. -/
  | trailingBytes (extra : Nat)
  deriving DecidableEq, Repr

/-- The wording of a rejection. -/
def RejectReason.message : RejectReason → String
  | tooShort length => s!"payload too short: {length} bytes"
  | wrongType tag => s!"unrecognized message type {tag.toNat}"
  | truncated declared complete =>
    s!"peer list truncated: {complete} of {declared.toNat} records present"
  | trailingBytes extra => s!"{extra} trailing bytes after declared peer records"

/-- **What a decoder makes of a length that disagrees with the header.** -/
inductive DecodePolicy
  /-- Keeps the whole records that are there and ignores what follows them. -/
  | lenient
  /-- Wants the declared records, all of them, and nothing behind them. -/
  | strict
  deriving DecidableEq, Repr

/-! ## Decoders -/

/-- **A decoder** reads bytes and may reject them. -/
abbrev Decoder := ExceptT RejectReason Reader

namespace Decoder

variable {α β : Type} {p rest : List UInt8}

theorem pure_apply (a : α) : (pure a : Decoder α) p = some (.ok a, p) := rfl

theorem throw_apply (e : RejectReason) : (throw e : Decoder α) p = some (.error e, p) := rfl

/-- A decoder goes on behind a reader that does not fault. -/
theorem bind_reader {x : Reader α} {f : α → Decoder β} {a : α} (h : x p = some (a, rest)) :
    ((liftM x : Decoder α) >>= f) p = f a rest := by
  simp [bind, ExceptT.bind, ExceptT.mk, StateT.bind, liftM, monadLift, MonadLift.monadLift,
    ExceptT.lift, Functor.map, StateT.map, h, ExceptT.bindCont]

/-- A decoder goes on behind one that accepted. -/
theorem bind_ok {x : Decoder α} {f : α → Decoder β} {a : α} (h : x p = some (.ok a, rest)) :
    (x >>= f) p = f a rest := by
  simp [bind, ExceptT.bind, ExceptT.mk, StateT.bind, h, ExceptT.bindCont]

/-- A rejection is final. -/
theorem bind_error {x : Decoder α} {f : α → Decoder β} {e : RejectReason}
    (h : x p = some (.error e, rest)) : (x >>= f) p = some (.error e, rest) := by
  show (x p >>= fun y => ExceptT.bindCont f y.1 y.2) = some (.error e, rest)
  rw [h]
  rfl

end Decoder

/-! ## The header -/

/-- The tag of a report. -/
def reportTag : UInt8 := 20

/-- **The header of a report.** -/
structure Header where
  peerCount : UInt8
  source : UInt32
  sequence : UInt64
  deriving DecidableEq, Repr

namespace Header

/-- The number of bytes of a header. -/
def size : Nat := 16

/-- **Appends a header** to bytes already written. -/
def encodeInto (buffer : List UInt8) (h : Header) : List UInt8 :=
  buffer ++ [reportTag] ++ [h.peerCount] ++ littleEndian 2 0 ++
    littleEndian 4 h.source.toNat ++ littleEndian 8 h.sequence.toNat

/-- The bytes of a header. -/
def bytes (h : Header) : List UInt8 := encodeInto [] h

/-- **Reads a header.** Too few bytes are seen before anything is read, a wrong
tag after one byte; only then is the rest of the header taken. -/
def read : Decoder Header := do
  let length ← Reader.remaining
  if length < size then throw (.tooShort length) else
  let tag ← Reader.byte
  if tag ≠ reportTag then throw (.wrongType tag) else
  let peerCount ← Reader.byte
  let _reserved ← Reader.word16
  let source ← Reader.word32
  let sequence ← Reader.word64
  return ⟨peerCount, source, sequence⟩

/-- Fewer bytes than a header has are all left unread. -/
theorem read_of_length_lt {p : List UInt8} (h : p.length < size) :
    read p = some (.error (.tooShort p.length), p) := by
  rw [read, Decoder.bind_reader (Reader.remaining_apply p), if_pos h, Decoder.throw_apply]

/-- Behind a wrong tag nothing is read. -/
theorem read_of_ne_tag {tag : UInt8} {body : List UInt8} (h : size ≤ (tag :: body).length)
    (htag : tag ≠ reportTag) :
    read (tag :: body) = some (.error (.wrongType tag), body) := by
  rw [read, Decoder.bind_reader (Reader.remaining_apply _), if_neg (Nat.not_lt.mpr h),
    Decoder.bind_reader (Reader.byte_cons tag body), if_pos htag, Decoder.throw_apply]

/-- A whole header is read, whatever its reserved bytes hold. -/
theorem read_of_tag {peerCount : UInt8} {body : List UInt8}
    (h : size ≤ (reportTag :: peerCount :: body).length) :
    read (reportTag :: peerCount :: body)
      = some (.ok ⟨peerCount, UInt32.ofNat (ofLittleEndian ((body.drop 2).take 4)),
          UInt64.ofNat (ofLittleEndian ((body.drop 6).take 8))⟩, body.drop 14) := by
  have hbody : 14 ≤ body.length := by
    simp only [size, List.length_cons] at h
    omega
  rw [read, Decoder.bind_reader (Reader.remaining_apply _), if_neg (Nat.not_lt.mpr h),
    Decoder.bind_reader (Reader.byte_cons _ _), if_neg (by simp),
    Decoder.bind_reader (Reader.byte_cons _ _),
    Decoder.bind_reader (Reader.word16_of_le (by omega)),
    Decoder.bind_reader (Reader.word32_of_le (by rw [List.length_drop]; omega)),
    Decoder.bind_reader (Reader.word64_of_le (by simp only [List.length_drop]; omega)),
    Decoder.pure_apply]
  simp only [List.drop_drop]

/-- A header is either accepted or rejected, with no fault. -/
theorem isSome_read (p : List UInt8) : (read p).isSome := by
  by_cases h : p.length < size
  · simp [read_of_length_lt h]
  · match p with
    | [] => simp [size] at h
    | [b] => simp [size] at h
    | tag :: peerCount :: body =>
      by_cases htag : tag = reportTag
      · subst htag
        simp [read_of_tag (Nat.not_lt.mp h)]
      · simp [read_of_ne_tag (Nat.not_lt.mp h) htag]

/-- **Decodes a header**, and says what is left unread behind it. -/
def decode (p : List UInt8) : Except RejectReason Header × List UInt8 :=
  (read p).get (isSome_read p)

end Header

/-! ## The peers -/

namespace PeerStat

/-- The number of bytes of a record. -/
def size : Nat := 12

/-- **Appends a record** to bytes already written. -/
def encodeInto (buffer : List UInt8) (p : PeerStat) : List UInt8 :=
  buffer ++ littleEndian 4 p.id.toNat ++ littleEndian 4 p.rtt.bits.toNat ++
    littleEndian 4 p.losses.toNat

/-- The bytes of a record. -/
def bytes (p : PeerStat) : List UInt8 := encodeInto [] p

/-- Reads a record. -/
def read : Reader PeerStat := do
  let id ← Reader.word32
  let rtt ← Reader.word32
  let losses ← Reader.word32
  return ⟨id, ⟨rtt⟩, losses⟩

/-- The record a string of twelve bytes spells. -/
def ofBytes (p : List UInt8) : PeerStat where
  id := UInt32.ofNat (ofLittleEndian (p.take 4))
  rtt := ⟨UInt32.ofNat (ofLittleEndian ((p.drop 4).take 4))⟩
  losses := UInt32.ofNat (ofLittleEndian ((p.drop 8).take 4))

theorem read_of_le {p : List UInt8} (h : size ≤ p.length) :
    read p = some (ofBytes p, p.drop size) := by
  simp only [size] at h
  rw [read, Reader.bind_of_eq_some (Reader.word32_of_le (by omega)),
    Reader.bind_of_eq_some (Reader.word32_of_le (by rw [List.length_drop]; omega)),
    Reader.bind_of_eq_some (Reader.word32_of_le (by simp only [List.length_drop]; omega))]
  simp only [List.drop_drop]
  rfl

/-- **Reads up to `n` records**, and stops early where less than a whole one is
left. -/
def readUpTo : (n : Nat) → Reader {peers : List PeerStat // peers.length ≤ n}
  | 0 => return ⟨[], Nat.le_refl 0⟩
  | n + 1 => do
    let length ← Reader.remaining
    if length < size then return ⟨[], Nat.zero_le _⟩ else
    let first ← read
    let others ← readUpTo n
    return ⟨first :: others.val, Nat.succ_le_succ others.property⟩

/-- Less than a whole record is left unread. -/
theorem readUpTo_of_length_lt (n : Nat) {p : List UInt8} (h : p.length < size) :
    readUpTo n p = some (⟨[], Nat.zero_le _⟩, p) := by
  cases n with
  | zero => rfl
  | succ n => rw [readUpTo, Reader.bind_of_eq_some (Reader.remaining_apply p), if_pos h]; rfl

/-- Where a whole record is left, it comes first. -/
theorem readUpTo_succ_of_le {n : Nat} {p rest : List UInt8}
    {others : {peers : List PeerStat // peers.length ≤ n}} (h : size ≤ p.length)
    (hrest : readUpTo n (p.drop size) = some (others, rest)) :
    readUpTo (n + 1) p
      = some (⟨ofBytes p :: others.val, Nat.succ_le_succ others.property⟩, rest) := by
  rw [readUpTo, Reader.bind_of_eq_some (Reader.remaining_apply p), if_neg (Nat.not_lt.mpr h),
    Reader.bind_of_eq_some (read_of_le h), Reader.bind_of_eq_some hrest]
  rfl

/-- No record is read past the end. -/
theorem isSome_readUpTo (n : Nat) (p : List UInt8) : (readUpTo n p).isSome := by
  induction n generalizing p with
  | zero => rfl
  | succ n ih =>
    by_cases h : p.length < size
    · simp [readUpTo_of_length_lt _ h]
    · obtain ⟨⟨others, rest⟩, hrest⟩ := Option.isSome_iff_exists.mp (ih (p.drop size))
      simp [readUpTo_succ_of_le (Nat.not_lt.mp h) hrest]

end PeerStat

/-! ## The report -/

namespace Report

/-- The number of bytes of a report. -/
def encodedLength (r : Report) : Nat := Header.size + r.peers.length * PeerStat.size

/-- The count of the peers of a report, in the byte that a header has for it. It fits the byte,
by the bound on the peers. -/
def count (r : Report) : UInt8 := UInt8.ofNat r.peers.length

/-- The header of a report. -/
def header (r : Report) : Header := ⟨r.count, r.source, r.sequence⟩

/-- **Appends a report** to bytes already written. -/
def encodeInto (buffer : List UInt8) (r : Report) : List UInt8 :=
  r.peers.foldl PeerStat.encodeInto (Header.encodeInto buffer r.header)

/-- **The bytes of a report.** -/
def bytes (r : Report) : List UInt8 := encodeInto [] r

/-- The strict policy's demand on the bytes behind a header: exactly the declared
records. -/
def checkLength (declared : UInt8) : Decoder Unit := do
  let expected := declared.toNat * PeerStat.size
  let length ← Reader.remaining
  if length < expected then throw (.truncated declared (length / PeerStat.size)) else
  if expected < length then
    let extra ← Reader.difference length expected
    throw (.trailingBytes extra)
  else return ()

/-- What a policy demands of the bytes behind a header. -/
def demand (policy : DecodePolicy) (declared : UInt8) : Decoder Unit :=
  match policy with
  | .lenient => return ()
  | .strict => checkLength declared

/-- The report of a header and of the records read behind it, of which there are
no more than a byte can declare. -/
def ofRead (header : Header)
    (peers : {peers : List PeerStat // peers.length ≤ header.peerCount.toNat}) : Report where
  source := header.source
  sequence := header.sequence
  peers := peers.val
  peers_length_le := Nat.le_trans peers.property (Nat.le_of_lt_succ header.peerCount.toNat_lt)

/-- **Reads a report** under a policy. -/
def read (policy : DecodePolicy) : Decoder Report := do
  let header ← Header.read
  demand policy header.peerCount
  let peers ← PeerStat.readUpTo header.peerCount.toNat
  return ofRead header peers

/-- The length check looks at the bytes and takes none. -/
theorem exists_demand (policy : DecodePolicy) (declared : UInt8) (p : List UInt8) :
    ∃ result, demand policy declared p = some (result, p) := by
  cases policy with
  | lenient => exact ⟨_, rfl⟩
  | strict =>
    simp only [demand, checkLength]
    rw [Decoder.bind_reader (Reader.remaining_apply p)]
    split
    · exact ⟨_, rfl⟩
    · split
      · rename_i h
        exact ⟨_, by rw [Decoder.bind_reader (Reader.difference_of_le (Nat.le_of_lt h) p),
          Decoder.throw_apply]⟩
      · exact ⟨_, rfl⟩

/-- **Reading a report never faults**: every byte it asks for is there, and the
length of what follows is subtracted only from what is longer. -/
theorem isSome_read (policy : DecodePolicy) (p : List UInt8) : (read policy p).isSome := by
  obtain ⟨⟨header, rest⟩, hheader⟩ := Option.isSome_iff_exists.mp (Header.isSome_read p)
  cases header with
  | error reason => simp only [read, Decoder.bind_error hheader, Option.isSome_some]
  | ok header =>
    obtain ⟨result, hresult⟩ := exists_demand policy header.peerCount rest
    cases result with
    | error reason =>
      simp only [read, Decoder.bind_ok hheader, Decoder.bind_error hresult, Option.isSome_some]
    | ok _ =>
      obtain ⟨⟨peers, rest'⟩, hpeers⟩ :=
        Option.isSome_iff_exists.mp (PeerStat.isSome_readUpTo header.peerCount.toNat rest)
      simp only [read, Decoder.bind_ok hheader, Decoder.bind_ok hresult,
        Decoder.bind_reader hpeers, Decoder.pure_apply, Option.isSome_some]

/-- **Decodes a datagram** under a policy. -/
def decode (policy : DecodePolicy) (p : List UInt8) : Except RejectReason Report :=
  ((read policy p).get (isSome_read policy p)).1

/-- What a run of the reader says is what the decoder answers. -/
theorem decode_eq_of_read {policy : DecodePolicy} {p rest : List UInt8}
    {result : Except RejectReason Report} (h : read policy p = some (result, rest)) :
    decode policy p = result := by
  simp [decode, h]

end Report

end PeerTelemetry
