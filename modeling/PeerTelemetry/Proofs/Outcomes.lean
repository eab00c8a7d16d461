import PeerTelemetry.Proofs.Offsets
import PeerTelemetry.Proofs.Policies
import PeerTelemetry.Proofs.ReceiveBuffer
import PeerTelemetry.Proofs.UniqueReading

/-!
# What is concluded and what is shown

A dispatch gives two answers about a datagram. The operator reads a text, and whoever asked for the
dispatch is told an outcome, which goes into the log. The two are put together apart from each
other, and nothing checks the one against the other afterwards. **They tell the same story**
(`dispatch_outcome_iff_written`): from the text alone it can be told which outcome was concluded,
and the sequence number and the count of peers in the outcome are those of the text.

A report leaves a block of lines (`block`), a datagram that is ignored leaves one line, and no block
is as short as that. The line of an ignored datagram gives its length and not the reason; but the
reason can be told from the datagram (`RejectReason.Fits`). In which order the decoder makes
its checks does not matter to that: the conditions exclude each other, so that no more than one
reason fits, and none fits what is accepted (`Report.decode_eq_error_iff_fits`).
-/

namespace PeerTelemetry

/-! ## Reasons -/

/-- **Whether a reason fits a datagram.** It has fewer bytes than a header; or it has as many,
under another tag; or, if the policy is strict, its length lies between the `complete` records that
are there and the next one, which the header declares; or it has bytes behind the last record
that the header declares. -/
def RejectReason.Fits (policy : DecodePolicy) (p : List UInt8) : RejectReason → Prop
  | tooShort length => length = p.length ∧ p.length < 16
  | wrongType tag => p[0]? = some tag ∧ tag ≠ reportTag ∧ 16 ≤ p.length
  | truncated declared complete =>
    policy = .strict ∧ p[0]? = some reportTag ∧ p[1]? = some declared
      ∧ complete < declared.toNat
      ∧ 16 + 12 * complete ≤ p.length ∧ p.length < 16 + 12 * (complete + 1)
  | trailingBytes extra =>
    policy = .strict ∧ p[0]? = some reportTag ∧ 0 < extra
      ∧ ∃ declared : UInt8, p[1]? = some declared ∧ p.length = 16 + 12 * declared.toNat + extra

namespace Report

/-- A datagram is rejected for a reason that fits it. -/
theorem fits_of_decode_eq_error {policy : DecodePolicy} {p : List UInt8} {reason : RejectReason}
    (h : decode policy p = .error reason) : reason.Fits policy p := by
  cases layout p with
  | short hlen =>
    rw [decode_of_length_lt _ hlen] at h
    cases h
    exact ⟨rfl, hlen⟩
  | foreign htag hlen =>
    rw [decode_of_ne_tag _ htag hlen] at h
    cases h
    exact ⟨rfl, htag, hlen⟩
  | frame r declared low high rest hex =>
    have hlen : (r.frame declared low high rest).length
        = 16 + 12 * r.peers.length + rest.length := by
      rw [length_frame, encodedLength_eq]
    cases policy with
    | lenient =>
      rw [decode_lenient_frame low high hex] at h
      cases h
    | strict =>
      cases reason with
      | tooShort | wrongType =>
        exact absurd trivial (decode_strict_frame_ne_ofHeader low high hex h)
      | truncated =>
        obtain ⟨hfew, rfl, rfl⟩ := (decode_strict_frame_eq_truncated_iff low high hex).mp h
        have hrest : rest.length < 12 := (hex.resolve_left (Nat.ne_of_lt hfew)).2
        exact ⟨rfl, rfl, rfl, hfew, by omega, by omega⟩
      | trailingBytes =>
        obtain ⟨hall, hmore, rfl⟩ := (decode_strict_frame_eq_trailingBytes_iff low high hex).mp h
        refine ⟨rfl, rfl, List.length_pos_iff.mpr hmore, declared, rfl, ?_⟩
        rw [hlen, hall]

/-- A reason that fits a datagram is the one it is rejected for. -/
theorem decode_eq_error_of_fits {policy : DecodePolicy} {p : List UInt8} {reason : RejectReason}
    (h : reason.Fits policy p) : decode policy p = .error reason := by
  cases reason with
  | tooShort length =>
    obtain ⟨rfl, hlen⟩ := h
    exact decode_of_length_lt policy hlen
  | wrongType tag =>
    obtain ⟨hfirst, htag, hlen⟩ := h
    obtain ⟨body, rfl⟩ : ∃ body, p = tag :: body :=
      List.head?_eq_some_iff.mp (List.head?_eq_getElem?.trans hfirst)
    exact decode_of_ne_tag policy htag hlen
  | truncated declared complete =>
    obtain ⟨rfl, hfirst, hsecond, hfew, hle, hlt⟩ := h
    obtain ⟨r, declared', low, high, rest, rfl, hex⟩ :=
      exists_eq_frame (Nat.le_of_add_right_le hle) hfirst
    obtain rfl : declared' = declared := Option.some.inj hsecond
    rw [length_frame, encodedLength_eq] at hle hlt
    have hcomplete : complete = r.peers.length := by
      rcases hex with hall | ⟨-, hrest⟩
      · omega
      · unfold PeerStat.size at hrest
        omega
    exact (decode_strict_frame_eq_truncated_iff low high hex).mpr
      ⟨hcomplete ▸ hfew, rfl, hcomplete⟩
  | trailingBytes extra =>
    obtain ⟨rfl, hfirst, hpos, declared, hsecond, hlen⟩ := h
    obtain ⟨r, declared', low, high, rest, rfl, hex⟩ := exists_eq_frame (by omega) hfirst
    obtain rfl : declared' = declared := Option.some.inj hsecond
    rw [length_frame, encodedLength_eq] at hlen
    have hall : r.peers.length = declared'.toNat := by
      rcases hex with hall | ⟨hfew, hrest⟩
      · exact hall
      · unfold PeerStat.size at hrest
        omega
    refine (decode_strict_frame_eq_trailingBytes_iff low high hex).mpr ⟨hall, ?_, by omega⟩
    rw [← List.length_pos_iff]
    omega

/-- **A datagram is rejected for the reason that fits it**, and is accepted if none does. -/
theorem decode_eq_error_iff_fits {policy : DecodePolicy} {p : List UInt8} {reason : RejectReason} :
    decode policy p = .error reason ↔ reason.Fits policy p :=
  ⟨fits_of_decode_eq_error, decode_eq_error_of_fits⟩

end Report

/-! ## Blocks -/

/-- **A block of lines**: a first line that names a sequence number, a source and a sender, one line
for each of some records, in their order, and an empty line. -/
def block (sender : IpAddress) (sequence : UInt64) (source : UInt32) (peers : List PeerStat) :
    List (List Char) :=
  ("[seq=".toList ++ decimal sequence.toNat ++ "] from node ".toList ++ decimal source.toNat
      ++ " (".toList ++ sender.text ++ ")".toList)
    :: peers.map PeerStat.line ++ [[]]

section Block

variable {sender : IpAddress} {sequence sequence' : UInt64} {source source' : UInt32}
  {peers peers' : List PeerStat}

/-- The lines of a report are the block of its own numbers. -/
theorem Report.lines_eq_block (r : Report) (sender : IpAddress) :
    r.lines sender = block sender r.sequence r.source r.peers := rfl

/-- The first line of a block is that of a report, of one without peers as of any other. -/
theorem block_eq_headline_cons :
    block sender sequence source peers
      = (Report.mk source sequence [] (Nat.zero_le _)).headline sender
        :: (peers.map PeerStat.line ++ [[]]) := rfl

/-- No line of a block has the end of a line inside. -/
theorem newline_notMem_of_mem_block {line : List Char}
    (h : line ∈ block sender sequence source peers) : '\n' ∉ line := by
  rw [block_eq_headline_cons] at h
  rcases List.mem_cons.mp h with rfl | h
  · exact Report.newline_notMem_headline _ sender
  · rcases List.mem_append.mp h with h | h
    · obtain ⟨p, -, rfl⟩ := List.mem_map.mp h
      exact p.newline_notMem_line
    · rw [List.mem_singleton.mp h]
      exact List.not_mem_nil

/-- **A block shows its sequence number**, and how many records it is of. -/
theorem eq_and_length_eq_of_block_eq
    (h : block sender sequence source peers = block sender sequence' source' peers') :
    sequence = sequence' ∧ peers.length = peers'.length := by
  rw [block_eq_headline_cons, block_eq_headline_cons] at h
  obtain ⟨hhead, htail⟩ := List.cons.inj h
  refine ⟨(Report.headline_eq_headline_iff.mp hhead).1, ?_⟩
  simpa using congrArg List.length htail

/-- Blocks of the same bytes are the same. -/
theorem block_eq_of_utf8_eq
    (h : utf8 ((block sender sequence source peers).flatMap (· ++ ['\n']))
      = utf8 ((block sender sequence' source' peers').flatMap (· ++ ['\n']))) :
    block sender sequence source peers = block sender sequence' source' peers' :=
  lines_eq_of_text_eq (fun _ => newline_notMem_of_mem_block) (fun _ => newline_notMem_of_mem_block)
    (utf8_injective h)

/-- **No block is the line of an ignored datagram**, which is one line where a block has two. -/
theorem utf8_block_ne_utf8_ignoredLine (length : Nat) :
    utf8 ((block sender sequence source peers).flatMap (· ++ ['\n']))
      ≠ utf8 (ignoredLine sender length ++ ['\n']) := by
  intro h
  have hone : ignoredLine sender length ++ ['\n']
      = [ignoredLine sender length].flatMap (· ++ ['\n']) := (List.flatMap_singleton _ _).symm
  rw [hone] at h
  have hlines := lines_eq_of_text_eq (fun _ => newline_notMem_of_mem_block)
    (fun line hline => List.mem_singleton.mp hline ▸ newline_notMem_ignoredLine sender length)
    (utf8_injective h)
  have hlength := congrArg List.length hlines
  simp [block] at hlength

end Block

/-! ## Dispatches -/

/-- **What a dispatch concludes is what it has shown.**

On a stream that does not fail, a dispatch concludes that a datagram was a report with some sequence
number and some count of peers if and only if what it has written is a block under this sequence
number and the source of the datagram, with one line for each of so many records, in the
order in which the datagram has them, and an empty line. It concludes that the datagram was
ignored if and only if it has written the one line that says so with the length of the datagram;
and the reason is the one that fits the datagram. -/
theorem dispatch_outcome_iff_written (policy : DecodePolicy) (payload : List UInt8)
    (sender : IpAddress) (s : Stream) (hs : s.Unfailing) :
    ∃ (outcome : Outcome) (written : List UInt8),
      (dispatch policy payload sender).runOn s = (.ok outcome, s.shown written)
      ∧ (∀ sequence count, outcome = .reported sequence count
        ↔ ∃ (source : UInt32) (peers : List PeerStat),
          source.toNat = numberAt payload 4 4 ∧ peers.length = count
          ∧ (∀ (i : Nat) (hi : i < peers.length), peers[i].SpelledAt payload (16 + 12 * i))
          ∧ written = utf8 ((block sender sequence source peers).flatMap (· ++ ['\n'])))
      ∧ ((∃ reason, outcome = .ignored reason)
        ↔ written = utf8 (ignoredLine sender payload.length ++ ['\n']))
      ∧ ∀ reason, outcome = .ignored reason ↔ reason.Fits policy payload := by
  cases hdecode : Report.decode policy payload with
  | ok r =>
    refine ⟨_, _, runOn_dispatch_of_ok hdecode sender hs,
      fun sequence count => ⟨fun h => ?_, ?_⟩, ⟨?_, fun h => ?_⟩,
      fun reason => ⟨fun h => ?_, fun h => ?_⟩⟩
    · cases h
      have hspelled := Report.spelledAt_of_decode_eq_ok hdecode
      refine ⟨r.source, r.peers, hspelled.source_eq, rfl, hspelled.peer, ?_⟩
      rw [← Report.lines_eq_block]
      rfl
    · rintro ⟨source, peers, -, rfl, -, hwritten⟩
      obtain ⟨hsequence, hlength⟩ := eq_and_length_eq_of_block_eq (block_eq_of_utf8_eq hwritten)
      rw [← hsequence, ← hlength]
    · rintro ⟨reason, h⟩
      cases h
    · exact absurd h (utf8_block_ne_utf8_ignoredLine payload.length)
    · cases h
    · rw [Report.decode_eq_error_of_fits h] at hdecode
      cases hdecode
  | error reason =>
    refine ⟨_, _, runOn_dispatch_of_error hdecode sender hs,
      fun sequence count => ⟨fun h => ?_, ?_⟩, ⟨fun _ => rfl, fun _ => ⟨reason, rfl⟩⟩,
      fun reason' => ?_⟩
    · cases h
    · rintro ⟨source, peers, -, -, -, hwritten⟩
      exact absurd hwritten.symm (utf8_block_ne_utf8_ignoredLine payload.length)
    · rw [← Report.decode_eq_error_iff_fits, hdecode, Outcome.ignored.injEq, Except.error.injEq]

/-- The datagram that breaks off is truncated to the strict policy, and the operator reads how long
it is; to the lenient policy it is a report, and the operator reads the line of one peer. -/
theorem dispatch_outcome_iff_written_of_brokenOff :
    Stream.Unfailing {}
      ∧ (dispatch .strict Report.brokenOff (.v4 ⟨10, 0, 0, 3⟩)).runOn {}
        = (.ok (.ignored (.truncated 3 1)),
          Stream.shown {} (utf8 (ignoredLine (.v4 ⟨10, 0, 0, 3⟩) 31 ++ ['\n'])))
      ∧ ∃ (source : UInt32) (peers : List PeerStat),
        source.toNat = numberAt Report.brokenOff 4 4 ∧ peers.length = 1
        ∧ (dispatch .lenient Report.brokenOff (.v4 ⟨10, 0, 0, 3⟩)).runOn {}
          = (.ok (.reported 42 1), Stream.shown {}
            (utf8 ((block (.v4 ⟨10, 0, 0, 3⟩) 42 source peers).flatMap (· ++ ['\n'])))) := by
  have hs : Stream.Unfailing {} := ⟨rfl, rfl⟩
  refine ⟨hs, ?_, ?_⟩
  · obtain ⟨outcome, written, hrun, -, hignored, hreason⟩ :=
      dispatch_outcome_iff_written .strict Report.brokenOff (.v4 ⟨10, 0, 0, 3⟩) {} hs
    have houtcome : outcome = .ignored (.truncated 3 1) :=
      (hreason _).mpr ⟨rfl, rfl, rfl, by decide, by decide, by decide⟩
    rw [hrun, hignored.mp ⟨_, houtcome⟩, houtcome]
    rfl
  · obtain ⟨outcome, written, hrun, hreported, -⟩ :=
      dispatch_outcome_iff_written .lenient Report.brokenOff (.v4 ⟨10, 0, 0, 3⟩) {} hs
    have hkept : Report.decode .lenient Report.brokenOff = .ok Report.keptOfBrokenOff := rfl
    have houtcome : outcome = .reported 42 1 := by
      rw [runOn_dispatch_of_ok hkept _ hs] at hrun
      exact (Except.ok.inj (congrArg Prod.fst hrun)).symm
    obtain ⟨source, peers, hsource, hlength, -, hwritten⟩ := (hreported 42 1).mp houtcome
    exact ⟨source, peers, hsource, hlength, by rw [hrun, houtcome, hwritten]⟩

end PeerTelemetry
