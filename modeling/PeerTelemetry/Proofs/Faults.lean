import PeerTelemetry.Proofs.ListenerRun
import PeerTelemetry.Proofs.Layout

/-!
# No datagram makes the decoder fault

A reader faults when it is asked for more bytes than are left, and so does a difference that would
go below zero. None of the readers that take a word looks first. What they ask for is there
because of two guards that stand elsewhere: one in front of the header, for all of its words
together, and one in front of each record, for its three. This module says that **the guards are
enough for the reads behind them**, whatever the datagram (`Report.decode_faultless`).

A fault is never made good: a row of reads faults as soon as one of them does
(`Reader.bind_eq_none_iff`). So that the decoder does not fault as a whole is to say that none of
its reads does, at any place it comes to. How much a row of reads asks for is the sum of
what its reads ask for (`Reader.Takes.bind`), which is how the sizes in the guards are told to be
the right ones: a record is read if and only if there are twelve bytes.
-/

namespace PeerTelemetry

namespace Reader

variable {α β : Type} {x : Reader α} {m n : Nat}

/-- **A fault is final**: a reader and what follows it fault when the reader does, or when what
follows it does on the bytes that were left. -/
theorem bind_eq_none_iff {f : α → Reader β} {p : List UInt8} :
    (x >>= f) p = none ↔ x p = none ∨ ∃ a rest, x p = some (a, rest) ∧ f a rest = none := by
  rcases hx : x p with _ | ⟨a, rest⟩
  · simp [bind, StateT.bind, hx]
  · rw [bind_of_eq_some hx]
    constructor
    · exact fun hnone => Or.inr ⟨a, rest, rfl, hnone⟩
    · rintro (hnone | ⟨a', rest', hsome, hnone⟩)
      · cases hnone
      · cases hsome
        exact hnone

/-- **A reader takes `n` bytes**: it takes them where they are, and faults where fewer are left. -/
structure Takes (x : Reader α) (n : Nat) : Prop where
  exists_of_le : ∀ {p : List UInt8}, n ≤ p.length → ∃ a, x p = some (a, p.drop n)
  eq_none_of_lt : ∀ {p : List UInt8}, p.length < n → x p = none

namespace Takes

/-- What is made of a value asks for no more bytes. -/
theorem pure (a : α) : (pure a : Reader α).Takes 0 where
  exists_of_le _ := ⟨a, rfl⟩
  eq_none_of_lt h := absurd h (Nat.not_lt_zero _)

/-- **Two readers take what they take together.** -/
theorem bind {f : α → Reader β} (hx : x.Takes m) (hf : ∀ a, (f a).Takes n) :
    (x >>= f).Takes (m + n) where
  exists_of_le {p} h := by
    obtain ⟨a, hsome⟩ := hx.exists_of_le (Nat.le_of_add_right_le h)
    obtain ⟨b, hrest⟩ := (hf a).exists_of_le (p := p.drop m) (by rw [List.length_drop]; omega)
    exact ⟨b, by rw [bind_of_eq_some hsome, hrest, List.drop_drop]⟩
  eq_none_of_lt {p} h := by
    rw [bind_eq_none_iff]
    rcases Nat.lt_or_ge p.length m with hlt | hge
    · exact Or.inl (hx.eq_none_of_lt hlt)
    · obtain ⟨a, hsome⟩ := hx.exists_of_le hge
      refine Or.inr ⟨a, _, hsome, (hf a).eq_none_of_lt ?_⟩
      rw [List.length_drop]
      omega

/-- What is made of the value of a reader asks for no more bytes than the reader. -/
theorem map (hx : x.Takes n) (f : α → β) : (f <$> x).Takes n := by
  rw [map_eq_pure_bind]
  exact hx.bind fun a => Takes.pure (f a)

end Takes

theorem takes_take (n : Nat) : (take n).Takes n where
  exists_of_le h := ⟨_, take_of_le h⟩
  eq_none_of_lt h := take_eq_none_iff.mpr h

theorem takes_byte : byte.Takes 1 where
  exists_of_le {p} h := by
    cases p with
    | nil => cases h
    | cons b p => exact ⟨b, rfl⟩
  eq_none_of_lt {p} h := by
    rw [List.eq_nil_of_length_eq_zero (Nat.lt_one_iff.mp h)]
    rfl

theorem takes_word16 : word16.Takes 2 := (takes_take 2).map _

theorem takes_word32 : word32.Takes 4 := (takes_take 4).map _

theorem takes_word64 : word64.Takes 8 := (takes_take 8).map _

/-- A difference faults where it would go below zero. -/
theorem difference_eq_none_iff {m n : Nat} {p : List UInt8} :
    difference m n p = none ↔ m < n := by
  simp [difference]

end Reader

/-- **A record takes its size**, word by word. -/
theorem PeerStat.takes_read : read.Takes size :=
  Reader.takes_word32.bind fun _ => Reader.takes_word32.bind fun _ =>
    Reader.takes_word32.bind fun _ => Reader.Takes.pure _

namespace Report

/-- The length check does not fault: it subtracts from what it has found to be more. -/
theorem checkLength_ne_none (declared : UInt8) (p : List UInt8) :
    checkLength declared p ≠ none := by
  rw [checkLength_apply]
  exact Option.some_ne_none _

/-- **Behind an accepted report** nothing is left unread but what is behind its last record. -/
theorem read_of_decode_eq_ok {policy : DecodePolicy} {p : List UInt8} {r : Report}
    (h : decode policy p = .ok r) :
    r.encodedLength ≤ p.length ∧ read policy p = some (.ok r, p.drop r.encodedLength) := by
  refine ⟨r.encodedLength_eq ▸ length_le_of_decode_eq_ok h, ?_⟩
  obtain ⟨declared, low, high, rest, rfl, hex, hdemand⟩ := exists_eq_frame_of_decode_eq_ok h
  rw [drop_frame, read_frame_of_demand low high hex hdemand]

/-- **Decoding never faults**, whatever the datagram and the policy.

A word is read where there are as many bytes as it has and faults where there are fewer, and so
does a record with its twelve; a difference faults where it would go below zero. The header, the
check of the length and the records, as many as are asked for, are read without a fault from any
bytes. So the decoder comes to an end on any datagram, with what it answers: a report, all of whose
bytes were there, or one of the four reasons. And whatever else arrives at a
listener, in front of the datagram or behind it, its run ends well on a stream that never fails,
with a notice for each arrival. -/
theorem decode_faultless (policy : DecodePolicy) (p : List UInt8) :
    (Reader.byte.Takes 1 ∧ Reader.word16.Takes 2 ∧ Reader.word32.Takes 4 ∧ Reader.word64.Takes 8
      ∧ PeerStat.read.Takes 12 ∧ ∀ m n q, Reader.difference m n q = none ↔ m < n)
    ∧ (Header.read p ≠ none ∧ (∀ n, PeerStat.readUpTo n p ≠ none)
      ∧ ∀ declared, checkLength declared p ≠ none)
    ∧ (∃ rest, read policy p = some (decode policy p, rest)
      ∧ ∀ r, decode policy p = .ok r →
        r.encodedLength ≤ p.length ∧ rest = p.drop r.encodedLength)
    ∧ ((∃ r, decode policy p = .ok r)
      ∨ (∃ length, decode policy p = .error (.tooShort length))
      ∨ (∃ tag, decode policy p = .error (.wrongType tag))
      ∨ (∃ declared complete, decode policy p = .error (.truncated declared complete))
      ∨ ∃ extra, decode policy p = .error (.trailingBytes extra))
    ∧ ∀ (l : Listener) (request : List Notice) (address : SocketAddress) (s : Stream)
        (before after : List Arrival) (sender : SocketAddress), s.Unfailing →
      let arrivals := before ++ .ok ⟨p, sender⟩ :: after
      let run := l.run ⟨request, .ok address⟩ s arrivals
      run.conclusion = .ok ()
      ∧ run.notices = arrivals.map (Listener.arrivalNotice l.policy)
        ++ (request ++ [.stopping address]) := by
  refine ⟨⟨Reader.takes_byte, Reader.takes_word16, Reader.takes_word32, Reader.takes_word64,
      PeerStat.takes_read, fun _ _ _ => Reader.difference_eq_none_iff⟩,
    ⟨Option.ne_none_iff_isSome.mpr (Header.isSome_read p),
      fun n => Option.ne_none_iff_isSome.mpr (PeerStat.isSome_readUpTo n p),
      fun declared => checkLength_ne_none declared p⟩,
    ?_, ?_, fun l request address s before after sender hs => ?_⟩
  · obtain ⟨⟨result, rest⟩, hread⟩ := Option.isSome_iff_exists.mp (isSome_read policy p)
    have hdecode := decode_eq_of_read hread
    refine ⟨rest, hdecode ▸ hread, fun r hr => ?_⟩
    obtain ⟨hlen, hread'⟩ := read_of_decode_eq_ok hr
    rw [hread] at hread'
    cases hread'
    exact ⟨hlen, rfl⟩
  · cases decode policy p with
    | ok r => exact Or.inl ⟨r, rfl⟩
    | error reason => cases reason <;> simp
  · intro arrivals run
    have hall := Listener.runOn_mapM_handle_of_unfailing (l := l) (datagrams arrivals) hs
    have hrun : run = _ := Listener.run_of_ok ⟨request, .ok address⟩ hall
    rw [hrun]
    exact ⟨rfl, rfl⟩

/-- The datagram that breaks off, from some sender. -/
def brokenOffDatagram : Datagram := ⟨brokenOff, ⟨.v4 ⟨10, 0, 0, 3⟩, 40000, 0⟩⟩

/-- Of the datagram that breaks off three bytes are left unread, and a strict listener that
receives it three times ends well. -/
theorem decode_faultless_of_brokenOff :
    (decode .lenient brokenOff = .ok keptOfBrokenOff
      ∧ read .lenient brokenOff = some (.ok keptOfBrokenOff, [9, 9, 9]))
    ∧ Stream.Unfailing {}
    ∧ (Listener.run ⟨brokenOffDatagram.sender, .strict⟩ ⟨[], .ok brokenOffDatagram.sender⟩ {}
        [.ok brokenOffDatagram, .ok brokenOffDatagram, .ok brokenOffDatagram]).conclusion
          = .ok () := by
  have hkept : decode .lenient brokenOff = .ok keptOfBrokenOff := rfl
  have hs : Stream.Unfailing {} := ⟨rfl, rfl⟩
  obtain ⟨-, -, ⟨rest, hread, hrest⟩, -, -⟩ := decode_faultless .lenient brokenOff
  obtain ⟨-, -, -, -, hrun⟩ := decode_faultless .strict brokenOff
  obtain ⟨-, rfl⟩ := hrest _ hkept
  rw [hkept] at hread
  obtain ⟨hends, -⟩ := hrun ⟨brokenOffDatagram.sender, .strict⟩ [] brokenOffDatagram.sender {}
    [.ok brokenOffDatagram] [.ok brokenOffDatagram] brokenOffDatagram.sender hs
  exact ⟨⟨hkept, hread⟩, hs, hends⟩

end Report

end PeerTelemetry
