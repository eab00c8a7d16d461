import PeerTelemetry.Proofs.Layout
import PeerTelemetry.Proofs.ListenerRun
import PeerTelemetry.Proofs.Requests

/-!
# From the sender to the operator

A report that is sent comes to the operator as it was: **the listener shows the report that the
sender put together**, with all of its peers in their order, whatever the bits of their
round-trip times, and whether the listener is lenient or strict (`send_listen`). Nothing is lost
on the way through the receive buffer, since the largest report there is takes less than
the buffer holds (`Report.seen_bytes`); and the strict policy has nothing to object to, since
the bytes of a report are as many as its header promises. What no header can promise is not
sent: a list of peers that is too long is turned away before anything is asked of the network.

The network in between is not the program's. Whatever it does, it is handed one datagram at most,
the bytes of the report, once there is a socket for it (`Host.run_send_of_grants`); that all of it
is taken is to be asked of the network (`Network.TakesDatagrams`).
-/

namespace PeerTelemetry

/-- **A network that takes datagrams for a target**: a socket to send from can be had, and what is
sent to the target is taken as a whole. -/
structure Network.TakesDatagrams (network : Network) (target : SocketAddress) : Prop where
  grants : network.Grants [] target.preparations
  answer_eq : ∀ payload : List UInt8,
    network.answer target.preparations (.send target payload) = .ok payload.length

namespace Report

/-- **Every report fits into the receive buffer.** -/
theorem length_bytes_le (r : Report) : r.bytes.length ≤ maxDatagram := by
  rw [length_bytes]
  exact Nat.le_trans r.encodedLength_le (by decide)

/-- A listener sees all of a report. -/
theorem seen_bytes (r : Report) (sender : SocketAddress) :
    Datagram.seen ⟨r.bytes, sender⟩ = r.bytes :=
  List.take_of_length_le r.length_bytes_le

/-- The bytes of a report are examined to be that report. -/
theorem examine_bytes (policy : DecodePolicy) (r : Report) (sender : IpAddress) :
    examine policy r.bytes sender = (.report r sender, .reported r.sequence r.peers.length) := by
  unfold examine
  rw [decode_bytes]

end Report

namespace Listener

/-- **The bytes of a report are shown as that report**, on any stream and under either
policy. -/
theorem handle_bytes (l : Listener) (r : Report) (sender : SocketAddress) :
    l.handle ⟨r.bytes, sender⟩
      = (do (Entry.report r sender.ip).show
            return .reported r.sequence r.peers.length) := by
  unfold handle dispatch
  rw [r.seen_bytes, r.examine_bytes]

/-- **A run that receives a report** on a stream that never fails writes the report and notes
it. -/
theorem run_bytes (l : Listener) (request : List Notice) (address : SocketAddress) (r : Report)
    (sender : SocketAddress) {s : Stream} (hs : s.Unfailing) :
    l.run ⟨request, .ok address⟩ s [.ok ⟨r.bytes, sender⟩]
      = ⟨.ok (), s.shown (utf8 (Entry.report r sender.ip).text),
        .received sender (.reported r.sequence r.peers.length)
          :: (request ++ [.stopping address]), [.localAddress]⟩ := by
  have hexamine : examine l.policy (Datagram.seen ⟨r.bytes, sender⟩) sender.ip
      = (.report r sender.ip, .reported r.sequence r.peers.length) := by
    rw [r.seen_bytes, r.examine_bytes]
  have hcontribution : contribution l.policy ⟨r.bytes, sender⟩
      = utf8 (Entry.report r sender.ip).text := by
    unfold contribution
    rw [hexamine]
  have hnotice : arrivalNotice l.policy (.ok ⟨r.bytes, sender⟩)
      = .received sender (.reported r.sequence r.peers.length) := by
    show Notice.received sender (outcome l.policy ⟨r.bytes, sender⟩) = _
    rw [← examine_snd, hexamine]
  have hall : ((datagrams [.ok ⟨r.bytes, sender⟩]).mapM l.handle).runOn s
      = (.ok [outcome l.policy ⟨r.bytes, sender⟩],
        s.shown (utf8 (Entry.report r sender.ip).text)) := by
    have hshown := runOn_mapM_handle_of_unfailing (l := l) [⟨r.bytes, sender⟩] hs
    rwa [List.flatMap_singleton, hcontribution] at hshown
  rw [run_of_ok ⟨request, .ok address⟩ hall, List.map_singleton, hnotice]
  rfl

end Listener

namespace Task

/-- The task of sending a list of peers that a report takes is to send that report. -/
theorem ofCommand_send_of_le (files : Settings.Source)
    (target : SocketAddress) (source : UInt32) (sequence : UInt64) {peers : List PeerStat}
    (h : peers.length ≤ maxPeers) :
    ofCommand files (some (.send target source sequence peers))
      = .send target ⟨source, sequence, peers, h⟩ := by
  unfold ofCommand
  dsimp only
  rw [Report.ofPeers_of_le h]

/-- A longer list leaves nothing to do but to say how long it is. -/
theorem ofCommand_send_of_lt (files : Settings.Source)
    (target : SocketAddress) (source : UInt32) (sequence : UInt64) {peers : List PeerStat}
    (h : maxPeers < peers.length) :
    ofCommand files (some (.send target source sequence peers))
      = fail (.report ⟨peers.length⟩) := by
  unfold ofCommand
  dsimp only
  rw [Report.ofPeers_of_lt h]

end Task

namespace Host

variable {host : Host} {target : SocketAddress}

/-- **Where there is a socket**, the bytes of the report are handed to the network, and nothing
else; how it ends is the network's answer. -/
theorem run_send_of_grants (h : host.network.Grants [] target.preparations) (output : Stream)
    (r : Report) :
    (host.run output (.send target r)).datagrams = [(target, r.bytes)]
      ∧ (∀ count, host.network.answer target.preparations (.send target r.bytes) = .ok count →
        (host.run output (.send target r)).ending = .success
          ∧ (host.run output (.send target r)).notices
            = [.sent r.sequence r.peers.length count target])
      ∧ ∀ cause, host.network.answer target.preparations (.send target r.bytes) = .error cause →
        (host.run output (.send target r)).ending = .failure (.send target cause)
          ∧ (host.run output (.send target r)).notices = [] := by
  rw [run_send, Report.hold_send_of_grants h]
  cases hanswer : host.network.answer target.preparations (.send target r.bytes) with
  | ok count =>
    refine ⟨rfl, fun count' heq => ?_, fun cause heq => nomatch heq⟩
    cases heq
    exact ⟨rfl, rfl⟩
  | error cause =>
    refine ⟨rfl, fun count heq => (by cases heq), fun cause' heq => ?_⟩
    cases heq
    exact ⟨rfl, rfl⟩

/-- None of the requests for a socket is one to send. -/
theorem datagram?_of_mem_preparations {request : Request} (h : request ∈ target.preparations) :
    request.datagram? = none := by
  simp only [SocketAddress.preparations, List.mem_cons, List.not_mem_nil, or_false] at h
  rcases h with rfl | rfl | rfl <;> rfl

/-- **Where there is none**, the network is handed nothing. -/
theorem run_send_of_not_grants (h : ¬host.network.Grants [] target.preparations)
    (output : Stream) (r : Report) :
    (host.run output (.send target r)).datagrams = []
      ∧ ∃ cause, (host.run output (.send target r)).ending = .failure (.socket cause) := by
  obtain ⟨granted, request, cause, hrefuses⟩ :=
    (host.network.grants_or_refuses [] target.preparations).resolve_left h
  rw [run_send, Report.hold_send_of_refuses hrefuses]
  refine ⟨List.filterMap_eq_nil_iff.mpr fun asked hasked => ?_, cause, rfl⟩
  exact datagram?_of_mem_preparations (hrefuses.isPrefix.subset hasked)

end Host

/-- **What is sent is what is shown.**

Of a list of no more than 255 peers a report is made, whose bytes are 16 and 12 for each peer.
Where the network gives a socket it is handed these bytes for the target, as a single datagram, and
nothing otherwise; what it answers is how the program ends, and the number of bytes that it says
were sent is noted. A network that takes the datagram as a whole gives the number of its bytes. Any
listener that receives this datagram from any address shows the report of these peers and concludes
that it was a report, with its sequence number and the count of the peers; on a stream that never
fails its run ends well, and has written the lines of that report and noted it. A longer list of
peers is refused with its length, and nothing is asked of the network. -/
theorem send_listen (host : Host) (output : Stream) (target : SocketAddress) (source : UInt32)
    (sequence : UInt64) (peers : List PeerStat) :
    let sending := host.perform output (.send target source sequence peers)
    (peers.length ≤ 255 →
      ∃ r : Report, (r.source = source ∧ r.sequence = sequence ∧ r.peers = peers)
        ∧ r.bytes.length = 16 + 12 * peers.length
        ∧ (¬host.network.Grants [] target.preparations →
          sending.datagrams = [] ∧ ∃ cause, sending.ending = .failure (.socket cause))
        ∧ (host.network.Grants [] target.preparations →
          sending.datagrams = [(target, r.bytes)]
          ∧ (∀ count, host.network.answer target.preparations (.send target r.bytes) = .ok count →
            sending.ending = .success
              ∧ sending.notices = [.sent sequence peers.length count target])
          ∧ ∀ cause, host.network.answer target.preparations (.send target r.bytes) = .error cause →
            sending.ending = .failure (.send target cause) ∧ sending.notices = [])
        ∧ (host.network.TakesDatagrams target →
          ((r.send target).run.hold host.network []).1 = .ok (16 + 12 * peers.length)
          ∧ sending.ending = .success ∧ sending.datagrams = [(target, r.bytes)]
          ∧ sending.notices = [.sent sequence peers.length (16 + 12 * peers.length) target])
        ∧ ∀ (l : Listener) (sender : SocketAddress),
          l.handle ⟨r.bytes, sender⟩
            = (do (Entry.report r sender.ip).show
                  return .reported sequence peers.length)
          ∧ ∀ (request : List Notice) (address : SocketAddress) (s : Stream), s.Unfailing →
            let run := l.run ⟨request, .ok address⟩ s [.ok ⟨r.bytes, sender⟩]
            run.conclusion = .ok ()
            ∧ run.stream.written
              = s.written ++ utf8 ((r.lines sender.ip).flatMap (· ++ ['\n']))
            ∧ run.notices
              = .received sender (.reported sequence peers.length)
                :: (request ++ [.stopping address]))
    ∧ (255 < peers.length →
      sending.ending = .failure (.report ⟨peers.length⟩) ∧ sending.requests = []) := by
  intro sending
  refine ⟨fun hpeers => ?_, fun hpeers => ?_⟩
  · have hsending : sending = host.run output (.send target ⟨source, sequence, peers, hpeers⟩) := by
      show host.run output _ = _
      rw [Task.ofCommand_send_of_le _ _ _ _ hpeers]
    have hlength : (Report.bytes ⟨source, sequence, peers, hpeers⟩).length
        = 16 + 12 * peers.length := by
      rw [Report.length_bytes, Report.encodedLength_eq]
    rw [hsending]
    refine ⟨⟨source, sequence, peers, hpeers⟩, ⟨rfl, rfl, rfl⟩, hlength,
      fun h => Host.run_send_of_not_grants h output _,
      fun h => Host.run_send_of_grants h output _, fun h => ?_,
      fun l sender => ⟨l.handle_bytes _ sender, fun request address s hs => ?_⟩⟩
    · obtain ⟨hdatagrams, hok, -⟩ := Host.run_send_of_grants h.grants output
        ⟨source, sequence, peers, hpeers⟩
      have hcount := h.answer_eq (Report.bytes ⟨source, sequence, peers, hpeers⟩)
      rw [hlength] at hcount
      obtain ⟨hending, hnotices⟩ := hok _ hcount
      refine ⟨?_, hending, hdatagrams, hnotices⟩
      rw [Report.hold_send_of_grants h.grants, hcount]
      rfl
    · dsimp only
      rw [l.run_bytes request address _ sender hs]
      exact ⟨rfl, rfl, rfl⟩
  · have hsending : sending = host.run output (Task.fail (.report ⟨peers.length⟩)) := by
      show host.run output _ = _
      rw [Task.ofCommand_send_of_lt _ _ _ _ hpeers]
    rw [hsending, Task.fail, Host.run_finish]
    exact ⟨rfl, rfl⟩

/-- A host alone with itself: it grants everything, and hands out one port. -/
def loopbackHost : Host where
  network :=
    { answer := fun before r => match r with
        | .localAddress => .ok (Network.withPort 54321 (Network.boundAddress before))
        | .send _ payload => .ok payload.length
        | .socket _ | .receiveIpv4 | .receiveBuffer _ | .bind _ | .nonblocking | .register =>
          .ok () }
  source := ⟨fun _ => .error (.os .noSuchFile), fun _ => .ok []⟩
  arrivals := []
  signal := .interrupt

/-- A port of that host. -/
def loopbackPort (port : UInt16) : SocketAddress := ⟨.v4 ⟨127, 0, 0, 1⟩, port, 0⟩

/-- Peers whose round-trip time is a NaN that carries a payload. -/
def nanPeers (n : Nat) : List PeerStat := List.replicate n ⟨1, ⟨0x7FC00001⟩, 3⟩

/-- A full list of such peers is sent to a strict listener, which shows it; of a list with one more
nothing is sent. -/
theorem send_listen_full_of_nan :
    (∃ r : Report, r.peers = nanPeers 255 ∧ r.bytes.length = 3076
      ∧ (loopbackHost.perform {} (.send (loopbackPort 9998) 7 42 (nanPeers 255))).datagrams
          = [(loopbackPort 9998, r.bytes)]
      ∧ (loopbackHost.perform {} (.send (loopbackPort 9998) 7 42 (nanPeers 255))).notices
          = [.sent 42 255 3076 (loopbackPort 9998)]
      ∧ (Listener.run ⟨loopbackPort 9998, .strict⟩ ⟨[], .ok (loopbackPort 9998)⟩ {}
            [.ok ⟨r.bytes, loopbackPort 54321⟩]).stream.written
          = utf8 ((r.lines (.v4 ⟨127, 0, 0, 1⟩)).flatMap (· ++ ['\n'])))
    ∧ (loopbackHost.perform {} (.send (loopbackPort 9998) 7 42 (nanPeers 256))).ending
        = .failure (.report ⟨256⟩)
    ∧ (loopbackHost.perform {} (.send (loopbackPort 9998) 7 42 (nanPeers 256))).requests = [] := by
  have hfull : (nanPeers 255).length = 255 := List.length_replicate
  have hlong : (nanPeers 256).length = 256 := List.length_replicate
  have htakes : loopbackHost.network.TakesDatagrams (loopbackPort 9998) :=
    ⟨⟨⟨(), rfl⟩, ⟨(), rfl⟩, ⟨(), rfl⟩, trivial⟩, fun _ => rfl⟩
  obtain ⟨r, ⟨-, -, hpeers⟩, hlength, -, -, hsent, hlisten⟩ :=
    (send_listen loopbackHost {} (loopbackPort 9998) 7 42 (nanPeers 255)).1 (Nat.le_of_eq hfull)
  obtain ⟨-, -, hdatagrams, hnotices⟩ := hsent htakes
  obtain ⟨-, hrun⟩ := hlisten ⟨loopbackPort 9998, .strict⟩ (loopbackPort 54321)
  obtain ⟨-, hwritten, -⟩ := hrun [] (loopbackPort 9998) {} ⟨rfl, rfl⟩
  obtain ⟨hrefused, hnothing⟩ :=
    (send_listen loopbackHost {} (loopbackPort 9998) 7 42 (nanPeers 256)).2 (by rw [hlong]; decide)
  rw [hfull] at hnotices
  rw [hlong] at hrefused
  exact ⟨⟨r, hpeers, by rw [hlength, hfull], hdatagrams, hnotices, hwritten⟩, hrefused, hnothing⟩

end PeerTelemetry
