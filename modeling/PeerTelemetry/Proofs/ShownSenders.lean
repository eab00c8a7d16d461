import PeerTelemetry.Proofs.AddressReading
import PeerTelemetry.Proofs.UniqueReading
import PeerTelemetry.Settings.Basic

/-!
# The sender that is shown

All that the operator is shown of a sender is the text of its address, in brackets in the first line
of its entry. **The text is as good as the address** (`Settings.bindAddress_shown`). A listener that
is given it as its host listens at that very address, in the same family – an IPv6 address that maps
an IPv4 address does not turn into that IPv4 address on the way – and entries that agree on their
first line agree on their sender, and not only on what is shown of it.

To copy the text out of a line takes no knowledge of addresses. There is no bracket in
an address, and none of its kind stands in front of it.
-/

namespace PeerTelemetry

/-- **What a line has between two brackets**: behind the first that opens, and up to the first that
closes from there on. -/
def between (opening closing : Char) (line : List Char) : List Char :=
  ((line.dropWhile (· ≠ opening)).drop 1).takeWhile (· ≠ closing)

theorem between_append {opening closing : Char} {front part back : List Char}
    (hfront : opening ∉ front) (hpart : closing ∉ part) :
    between opening closing (front ++ opening :: (part ++ closing :: back)) = part := by
  have hend : ∀ (mark : Char) (s t : List Char), mark ∉ s →
      (s ++ mark :: t).takeWhile (· ≠ mark) = s
        ∧ (s ++ mark :: t).dropWhile (· ≠ mark) = mark :: t := by
    intro mark s t hs
    refine takeWhile_append_of_head? (fun c hc => ?_) fun c hc => ?_
    · exact decide_eq_true fun hmark => hs (hmark ▸ hc)
    · obtain rfl := Option.some.inj hc
      exact decide_eq_false fun hmark => hmark rfl
  unfold between
  rw [(hend opening front _ hfront).2]
  exact (hend closing part back hpart).1

/-- The first line of a report has its sender in round brackets. -/
theorem Report.between_headline (r : Report) (sender : IpAddress) :
    between '(' ')' (r.headline sender) = sender.text := by
  have hform : r.headline sender = ("[seq=".toList ++ (decimal r.sequence.toNat
      ++ ("] from node ".toList ++ (decimal r.source.toNat ++ [' ']))))
        ++ '(' :: (sender.text ++ [')']) := by
    rw [headline_eq]
    simp only [List.append_assoc]
    rfl
  rw [hform]
  refine between_append ?_ (IpAddress.notMem_text (by decide) sender)
  simp only [List.mem_append, not_or]
  exact ⟨by decide, notMem_decimal (by decide) _, by decide, notMem_decimal (by decide) _,
    by decide⟩

/-- The line of an ignored datagram has its sender in square brackets. -/
theorem between_ignoredLine (sender : IpAddress) (length : Nat) :
    between '[' ']' (ignoredLine sender length) = sender.text := by
  have hfront : '[' ∉ ([] : List Char) := List.not_mem_nil
  rw [ignoredLine_eq]
  exact between_append hfront (IpAddress.notMem_text (by decide) sender)

/-- **A shown sender can be listened at, and is the one that was shown.**

Settings whose host is the text of an address, and with any port, name that address and that port;
the family is that of the address. The text is what the first line of a report has in round
brackets, and the line of an ignored datagram in square ones. So these lines are the same only if
the senders are, and what else they show: the length of the datagram, or the sequence number and the
source of the report. -/
theorem Settings.bindAddress_shown :
    (∀ (s : Settings) (sender : IpAddress) (port : UInt16),
      { s with host := String.ofList sender.text, port }.bindAddress = .ok { ip := sender, port })
    ∧ (∀ (r : Report) (sender : IpAddress), between '(' ')' (r.headline sender) = sender.text)
    ∧ (∀ (sender : IpAddress) (length : Nat),
      between '[' ']' (ignoredLine sender length) = sender.text)
    ∧ (∀ (sender sender' : IpAddress) (length length' : Nat),
      ignoredLine sender length = ignoredLine sender' length'
        ↔ length = length' ∧ sender = sender')
    ∧ ∀ (r r' : Report) (sender sender' : IpAddress),
      r.headline sender = r'.headline sender'
        ↔ r.sequence = r'.sequence ∧ r.source = r'.source ∧ sender = sender' := by
  refine ⟨fun s sender port => ?_, Report.between_headline, between_ignoredLine,
    fun sender sender' length length' => ?_, fun r r' sender sender' => ?_⟩
  · unfold bindAddress
    dsimp only
    rw [String.toList_ofList, IpAddress.parse?_text]
  · rw [ignoredLine_eq_ignoredLine_iff, IpAddress.text_inj]
  · rw [Report.headline_eq_headline_iff, IpAddress.text_inj]

end PeerTelemetry
