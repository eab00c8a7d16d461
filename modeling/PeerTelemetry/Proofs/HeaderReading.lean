import PeerTelemetry.Proofs.Layout

/-!
# What is left behind a header

Whoever decodes a report goes on where its header ended, so it matters how far reading the header
got, and not only what came of it. There are **three places where it can stop**
(`Header.Reading`): at the front, if there are too few bytes, and then none of them has been looked
at; behind the tag, if that is a foreign one, however the bytes behind it may read; and behind the
header.

Nowhere else: the reserved bytes are passed over whatever they hold. They are all that is lost of a
header that is read, and to write it back gives the bytes it was read from with zeros in their
place.
-/

namespace PeerTelemetry

namespace Header

variable {p rest : List UInt8}

/-! ## Spellings -/

/-- The bytes of a header are its spelling with nothing in the reserved places. -/
theorem bytes_eq_spelling (h : Header) : h.bytes = h.spelling 0 0 := by
  rw [bytes, encodeInto_eq, List.nil_append]

/-- Anything may be put in the reserved places. -/
theorem set_spelling (h : Header) (low high low' high' : UInt8) :
    ((h.spelling low high).set 2 low').set 3 high' = h.spelling low' high' := rfl

/-- The bytes of a header with anything in the reserved places are its spellings. -/
theorem set_bytes (h : Header) (low high : UInt8) :
    (h.bytes.set 2 low).set 3 high = h.spelling low high := by
  rw [bytes_eq_spelling, set_spelling]

/-- **The bytes of a header are those it was spelled with**, with zeros in the reserved places. -/
theorem bytes_eq_of_spelling (h : Header) (low high : UInt8) (rest : List UInt8) :
    h.bytes = (((h.spelling low high ++ rest).take size).set 2 0).set 3 0 := by
  rw [List.take_left' (length_spelling h low high), set_spelling, bytes_eq_spelling]

/-- Behind a spelling stands what follows it. -/
theorem drop_spelling_append (h : Header) (low high : UInt8) (rest : List UInt8) :
    (h.spelling low high ++ rest).drop size = rest :=
  List.drop_left' (length_spelling h low high)

/-! ## Where reading stops -/

theorem decode_eq_of_read {result : Except RejectReason Header}
    (h : read p = some (result, rest)) : decode p = (result, rest) := by
  simp [decode, h]

/-- **Every spelling of a header is decoded to that header**, and all that follows is left. -/
theorem decode_spelling_append (h : Header) (low high : UInt8) (rest : List UInt8) :
    decode (h.spelling low high ++ rest) = (.ok h, rest) :=
  decode_eq_of_read (read_spelling h low high rest)

/-- Different headers have different bytes. -/
theorem bytes_injective {h h' : Header} (heq : h.bytes = h'.bytes) : h = h' := by
  have hdecode := decode_spelling_append h 0 0 []
  rw [← bytes_eq_spelling, heq, bytes_eq_spelling, decode_spelling_append] at hdecode
  exact (Except.ok.inj (congrArg Prod.fst hdecode)).symm

/-- **What reading a header comes to**, and what it leaves. -/
inductive Reading : List UInt8 → Except RejectReason Header × List UInt8 → Prop
  /-- There are too few bytes, and all of them are left. -/
  | tooShort {p : List UInt8} : p.length < size → Reading p (.error (.tooShort p.length), p)
  /-- The tag is a foreign one, and all that follows it is left. -/
  | wrongType {tag : UInt8} {rest : List UInt8} : size ≤ (tag :: rest).length → tag ≠ reportTag →
    Reading (tag :: rest) (.error (.wrongType tag), rest)
  /-- A header is spelled, and all that follows it is left. -/
  | header (h : Header) (low high : UInt8) (rest : List UInt8) :
    Reading (h.spelling low high ++ rest) (.ok h, rest)

/-- **Any bytes are read in one of these ways.** -/
theorem reading_decode (p : List UInt8) : Reading p (decode p) := by
  cases layout p with
  | short hshort =>
    rw [decode_eq_of_read (read_of_length_lt hshort)]
    exact .tooShort hshort
  | foreign htag hlen =>
    rw [decode_eq_of_read (read_of_ne_tag hlen htag)]
    exact .wrongType hlen htag
  | frame r declared low high rest _ =>
    unfold Report.frame
    rw [decode_spelling_append]
    exact .header _ low high _

theorem decode_eq_tooShort_iff {n : Nat} :
    decode p = (.error (.tooShort n), rest) ↔ p.length < size ∧ n = p.length ∧ rest = p := by
  constructor
  · intro h
    have hreading := h ▸ reading_decode p
    cases hreading with
    | tooShort hshort => exact ⟨hshort, rfl, rfl⟩
  · rintro ⟨hshort, rfl, rfl⟩
    exact decode_eq_of_read (read_of_length_lt hshort)

theorem decode_eq_wrongType_iff {tag : UInt8} :
    decode p = (.error (.wrongType tag), rest)
      ↔ (size ≤ p.length ∧ tag ≠ reportTag) ∧ p = tag :: rest := by
  constructor
  · intro h
    have hreading := h ▸ reading_decode p
    cases hreading with
    | wrongType hlen htag => exact ⟨⟨hlen, htag⟩, rfl⟩
  · rintro ⟨⟨hlen, htag⟩, rfl⟩
    exact decode_eq_of_read (read_of_ne_tag hlen htag)

theorem decode_eq_ok_iff {h : Header} :
    decode p = (.ok h, rest) ↔ ∃ low high : UInt8, p = h.spelling low high ++ rest := by
  constructor
  · intro hdecode
    have hreading := hdecode ▸ reading_decode p
    cases hreading with
    | header _ low high _ => exact ⟨low, high, rfl⟩
  · rintro ⟨low, high, rfl⟩
    exact decode_spelling_append h low high rest

/-- **Bytes begin with a spelling of a header** when there are enough of them, behind its tag, and
they are the bytes of the header but for the reserved places. -/
theorem eq_spelling_append_iff {h : Header} :
    (∃ low high : UInt8, p = h.spelling low high ++ rest)
      ↔ (size ≤ p.length ∧ p[0]? = some reportTag)
        ∧ h.bytes = ((p.take size).set 2 0).set 3 0 ∧ rest = p.drop size := by
  constructor
  · rintro ⟨low, high, rfl⟩
    refine ⟨⟨?_, rfl⟩, bytes_eq_of_spelling h low high rest,
      (drop_spelling_append h low high rest).symm⟩
    rw [List.length_append, length_spelling]
    exact Nat.le_add_right _ _
  · rintro ⟨⟨hlen, htag⟩, hbytes, rfl⟩
    cases p with
    | nil => cases htag
    | cons tag body =>
      obtain rfl : tag = reportTag := Option.some.inj htag
      obtain ⟨h', low, high, rest, hp⟩ := exists_spelling hlen
      rw [hp] at hbytes ⊢
      rw [← bytes_eq_of_spelling] at hbytes
      obtain rfl := bytes_injective hbytes
      exact ⟨low, high, by rw [drop_spelling_append]⟩

/-- **Decoding a header takes its own bytes and no others.**

The bytes of a header, with anything in the two reserved places and anything behind them, are
decoded to that header, and what was behind them is left. Of any bytes whatsoever one of three
things becomes. Fewer than sixteen are too few, and all are left. Of sixteen or more, behind a
foreign tag, all but the tag are left. And otherwise all but the first sixteen are, and these
are the bytes of the header that is returned, but for zeros in the reserved places. -/
theorem decode_and_unread :
    (∀ (h : Header) (low high : UInt8) (tail : List UInt8),
      decode ((h.bytes.set 2 low).set 3 high ++ tail) = (.ok h, tail))
    ∧ ∀ p : List UInt8,
      ((∃ n, decode p = (.error (.tooShort n), p))
        ∨ (∃ tag, decode p = (.error (.wrongType tag), p.drop 1))
        ∨ ∃ h, decode p = (.ok h, p.drop 16))
      ∧ (∀ n unread, decode p = (.error (.tooShort n), unread)
        ↔ p.length < 16 ∧ n = p.length ∧ unread = p)
      ∧ (∀ tag unread, decode p = (.error (.wrongType tag), unread)
        ↔ (16 ≤ p.length ∧ tag ≠ 20) ∧ p = tag :: unread)
      ∧ ∀ h unread, decode p = (.ok h, unread)
        ↔ (16 ≤ p.length ∧ p[0]? = some 20)
          ∧ h.bytes = ((p.take 16).set 2 0).set 3 0 ∧ unread = p.drop 16 := by
  refine ⟨fun h low high tail => ?_, fun p => ⟨?_, fun _ _ => decode_eq_tooShort_iff,
    fun _ _ => decode_eq_wrongType_iff,
    fun _ _ => decode_eq_ok_iff.trans eq_spelling_append_iff⟩⟩
  · rw [set_bytes, decode_spelling_append]
  · have hreading := reading_decode p
    generalize decode p = result at hreading ⊢
    cases hreading with
    | tooShort _ => exact Or.inl ⟨_, rfl⟩
    | wrongType _ _ => exact Or.inr (Or.inl ⟨_, rfl⟩)
    | header h low high rest =>
      have hrest := drop_spelling_append h low high rest
      exact Or.inr (Or.inr ⟨h, congrArg (Prod.mk _) hrest.symm⟩)

end Header

end PeerTelemetry
