import PeerTelemetry.Listener.Run
import PeerTelemetry.Proofs.Layout
import PeerTelemetry.Proofs.OperatorStream

/-!
# What the receive buffer cuts off

A listener receives into a buffer of fixed size, and the end of a longer datagram is
lost before anything has looked at it. That a report could be lost with it, or that a
cut could make a report of what was none, is a matter of two sizes: **the longest
report ends well inside the buffer** (`Report.encodedLength_le`), so that what is cut
off is never a part of a record that the header declares.

A datagram and what the buffer holds of it are then frames of one report, with
more and with less behind it (`Report.take_frame`), and the two are judged alike under
either policy. The strict policy would not take the one for a report and the other for
none: of a datagram that is cut, some bytes behind the report are in the buffer. All that
the operator can tell is how many there were.
-/

namespace PeerTelemetry

/-- **The same reason with more bytes behind the records.** Where the reason counts
those, the count grows. -/
def RejectReason.withMore (lost : Nat) : RejectReason → RejectReason
  | trailingBytes extra => trailingBytes (extra + lost)
  | reason => reason

namespace Report

variable {r : Report} {declared : UInt8} {rest : List UInt8}

/-- **A frame that is cut behind its report is a frame of that report**, with less
left over. -/
theorem take_frame (low high : UInt8) {n : Nat} (h : r.encodedLength ≤ n) :
    (r.frame declared low high rest).take n
      = r.frame declared low high (rest.take (n - r.encodedLength)) := by
  have hlen : (r.frame declared low high []).length = r.encodedLength :=
    length_frame r declared low high []
  rw [frame_eq_append, List.take_append, hlen, List.take_of_length_le (hlen ▸ h),
    ← frame_eq_append]

/-- The records exhaust what the frame declares as long as no more is left over. -/
theorem Exhausts.take (hex : r.Exhausts declared rest) (n : Nat) :
    r.Exhausts declared (rest.take n) :=
  hex.imp_right (And.imp_right (Nat.lt_of_le_of_lt (List.length_take_le' _ _)))

/-- A datagram that the strict decoder accepts is no longer than a report. -/
theorem length_le_of_decode_strict {d : List UInt8} (h : decode .strict d = .ok r) :
    d.length ≤ 3076 := by
  obtain ⟨low, high, rfl⟩ := decode_strict_eq_ok_iff.mp h
  rw [length_frame]
  exact r.encodedLength_le

/-- A frame is judged alike whether it is cut or not: it has all of its records in the
buffer, and if anything follows them, some of it. -/
theorem decode_take_frame (policy : DecodePolicy) (low high : UInt8)
    (hex : r.Exhausts declared rest) :
    (decode policy ((r.frame declared low high rest).take maxDatagram) = .ok r
      ∧ decode policy (r.frame declared low high rest) = .ok r)
    ∨ ∃ reason, decode policy ((r.frame declared low high rest).take maxDatagram) = .error reason
      ∧ decode policy (r.frame declared low high rest)
        = .error (reason.withMore ((r.frame declared low high rest).length - maxDatagram)) := by
  have hlen : r.encodedLength ≤ 3076 := r.encodedLength_le
  have hroom : r.encodedLength ≤ maxDatagram := Nat.le_trans hlen (by decide)
  rw [take_frame low high hroom]
  cases policy with
  | lenient =>
    exact Or.inl ⟨decode_lenient_frame low high (hex.take _), decode_lenient_frame low high hex⟩
  | strict =>
    rw [decode_strict_frame low high (hex.take _), decode_strict_frame low high hex]
    by_cases hfew : r.peers.length < declared.toNat
    · rw [if_pos hfew, if_pos hfew]
      exact Or.inr ⟨_, rfl, rfl⟩
    rw [if_neg hfew, if_neg hfew]
    by_cases hnil : rest = []
    · subst hnil
      rw [List.take_nil, if_pos rfl]
      exact Or.inl ⟨rfl, rfl⟩
    · have hpos : 0 < rest.length := List.length_pos_iff.mpr hnil
      have hsome : rest.take (maxDatagram - r.encodedLength) ≠ [] := by
        rw [← List.length_pos_iff, List.length_take]
        unfold maxDatagram
        omega
      rw [if_neg hnil, if_neg hsome]
      refine Or.inr ⟨_, rfl, congrArg (Except.error ∘ RejectReason.trailingBytes) ?_⟩
      rw [List.length_take, length_frame]
      unfold maxDatagram
      omega

/-- **The decoder answers alike** for a datagram and for what the buffer holds of it. -/
theorem decode_take_maxDatagram (policy : DecodePolicy) (d : List UInt8) :
    (∃ r, decode policy (d.take maxDatagram) = .ok r ∧ decode policy d = .ok r)
    ∨ ∃ reason, decode policy (d.take maxDatagram) = .error reason
      ∧ decode policy d = .error (reason.withMore (d.length - maxDatagram)) := by
  have hsize : Header.size ≤ maxDatagram := by decide
  cases layout d with
  | short hlen =>
    rw [List.take_of_length_le (Nat.le_trans (Nat.le_of_lt hlen) hsize),
      decode_of_length_lt policy hlen]
    exact Or.inr ⟨_, rfl, rfl⟩
  | @foreign tag body htag hlen =>
    have hcut : (tag :: body).take maxDatagram = tag :: body.take (maxDatagram - 1) := rfl
    have hlen' : Header.size ≤ (tag :: body.take (maxDatagram - 1)).length := by
      rw [← hcut, List.length_take]
      exact Nat.le_min.mpr ⟨hsize, hlen⟩
    rw [hcut, decode_of_ne_tag policy htag hlen', decode_of_ne_tag policy htag hlen]
    exact Or.inr ⟨_, rfl, rfl⟩
  | frame r declared low high rest hex =>
    exact (decode_take_frame policy low high hex).imp_left fun h => ⟨r, h⟩

/-- A datagram that does not fit into the buffer is no report to the strict decoder,
and neither is what fits of it. -/
theorem decode_strict_ne_ok_of_maxDatagram_lt {d : List UInt8} (h : maxDatagram < d.length)
    (r : Report) : decode .strict d ≠ .ok r ∧ decode .strict (d.take maxDatagram) ≠ .ok r := by
  have hwhole : ∀ r : Report, decode .strict d ≠ .ok r := by
    intro r hr
    have hlen := length_le_of_decode_strict hr
    unfold maxDatagram at h
    omega
  refine ⟨hwhole r, fun hr => ?_⟩
  rcases decode_take_maxDatagram .strict d with ⟨r', -, hr'⟩ | ⟨reason, hreason, -⟩
  · exact hwhole r' hr'
  · rw [hreason] at hr
    cases hr

end Report

/-! ## The dispatch of a datagram -/

/-- Of a datagram that is a report, a dispatch shows the report. -/
theorem runOn_dispatch_of_ok {policy : DecodePolicy} {d : List UInt8} {r : Report}
    (h : Report.decode policy d = .ok r) (sender : IpAddress) {s : Stream} (hs : s.Unfailing) :
    (dispatch policy d sender).runOn s
      = (.ok (.reported r.sequence r.peers.length),
        s.shown (utf8 (Entry.report r sender).text)) := by
  have hexamine : examine policy d sender
      = (.report r sender, .reported r.sequence r.peers.length) := by
    unfold examine
    rw [h]
  rw [runOn_dispatch, hexamine, Entry.runOn_show_of_unfailing _ hs]
  rfl

/-- Of a datagram that is no report, a dispatch shows that it was ignored. -/
theorem runOn_dispatch_of_error {policy : DecodePolicy} {d : List UInt8} {reason : RejectReason}
    (h : Report.decode policy d = .error reason) (sender : IpAddress) {s : Stream}
    (hs : s.Unfailing) :
    (dispatch policy d sender).runOn s
      = (.ok (.ignored reason), s.shown (utf8 (ignoredLine sender d.length ++ ['\n']))) := by
  have hexamine : examine policy d sender = (.ignored d.length sender, .ignored reason) := by
    unfold examine
    rw [h]
  have htext : (Entry.ignored d.length sender).text = ignoredLine sender d.length ++ ['\n'] :=
    List.flatMap_singleton _ _
  rw [runOn_dispatch, hexamine, Entry.runOn_show_of_unfailing _ hs, htext]
  rfl

/-- **What the buffer cuts off does not change what is reported.**

On a stream that does not fail, a datagram and what the buffer holds of it are both dispatched
as the same report, with the same outcome and the same text; or both are ignored, for the same
reason but that bytes too many are counted as far as they were received, and with the same line
but for the length in it. The strict policy takes no datagram for a report that does not
fit into the buffer, cut or not. -/
theorem dispatch_take_maxDatagram (policy : DecodePolicy) (d : List UInt8) (sender : IpAddress)
    (s : Stream) (hs : s.Unfailing) :
    ((∃ r : Report,
        (dispatch policy (d.take maxDatagram) sender).runOn s
          = (.ok (.reported r.sequence r.peers.length),
            s.shown (utf8 ((r.lines sender).flatMap (· ++ ['\n']))))
        ∧ (dispatch policy d sender).runOn s
          = (.ok (.reported r.sequence r.peers.length),
            s.shown (utf8 ((r.lines sender).flatMap (· ++ ['\n'])))))
      ∨ ∃ reason : RejectReason,
        (dispatch policy (d.take maxDatagram) sender).runOn s
          = (.ok (.ignored reason),
            s.shown (utf8 (ignoredLine sender (min d.length 4096) ++ ['\n'])))
        ∧ (dispatch policy d sender).runOn s
          = (.ok (.ignored (reason.withMore (d.length - 4096))),
            s.shown (utf8 (ignoredLine sender d.length ++ ['\n']))))
    ∧ (4096 < d.length → ∀ r : Report, Report.decode .strict d ≠ .ok r
      ∧ Report.decode .strict (d.take maxDatagram) ≠ .ok r) := by
  refine ⟨?_, Report.decode_strict_ne_ok_of_maxDatagram_lt⟩
  rcases Report.decode_take_maxDatagram policy d with ⟨r, hcut, hwhole⟩ | ⟨reason, hcut, hwhole⟩
  · exact Or.inl ⟨r, runOn_dispatch_of_ok hcut sender hs, runOn_dispatch_of_ok hwhole sender hs⟩
  · refine Or.inr ⟨reason, ?_, runOn_dispatch_of_error hwhole sender hs⟩
    rw [runOn_dispatch_of_error hcut sender hs, List.length_take, Nat.min_comm]
    rfl

/-- A report without peers. -/
def emptyReport : Report := ⟨7, 42, [], by decide⟩

/-- A datagram that does not fit: the report without peers, with five thousand bytes behind it. -/
def overlong : List UInt8 := emptyReport.bytes ++ List.replicate 5000 1

/-- The strict policy takes it for no report, and the lenient one for the report it begins
with, cut as well as whole. -/
theorem dispatch_take_maxDatagram_of_overlong :
    Stream.Unfailing {}
      ∧ (4096 < overlong.length
        ∧ Report.decode .strict (overlong.take maxDatagram) ≠ .ok emptyReport)
      ∧ ((dispatch .lenient overlong (.v4 ⟨10, 0, 0, 3⟩)).runOn {}).1 = .ok (.reported 42 0)
      ∧ (dispatch .lenient (overlong.take maxDatagram) (.v4 ⟨10, 0, 0, 3⟩)).runOn {}
        = (dispatch .lenient overlong (.v4 ⟨10, 0, 0, 3⟩)).runOn {} := by
  have hs : Stream.Unfailing {} := ⟨rfl, rfl⟩
  have hlong : 4096 < overlong.length := by
    rw [overlong, List.length_append, List.length_replicate, Report.length_bytes]
    decide
  have hreport : Report.decode .lenient overlong = .ok emptyReport := by
    rw [overlong, Report.bytes_append]
    exact Report.decode_lenient_frame 0 0 (Or.inl rfl)
  have hwhole := runOn_dispatch_of_ok hreport (.v4 ⟨10, 0, 0, 3⟩) hs
  obtain ⟨-, hstrict⟩ := dispatch_take_maxDatagram .strict overlong (.v4 ⟨10, 0, 0, 3⟩) {} hs
  obtain ⟨halike, -⟩ := dispatch_take_maxDatagram .lenient overlong (.v4 ⟨10, 0, 0, 3⟩) {} hs
  refine ⟨hs, ⟨hlong, (hstrict hlong emptyReport).2⟩, by rw [hwhole]; rfl, ?_⟩
  rcases halike with ⟨r, hcut, hall⟩ | ⟨reason, -, hall⟩
  · rw [hcut, hall]
  · rw [hwhole] at hall
    cases hall

end PeerTelemetry
