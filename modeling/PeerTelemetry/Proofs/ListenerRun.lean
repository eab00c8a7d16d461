import PeerTelemetry.Listener.Run
import PeerTelemetry.Proofs.OperatorStream

/-!
# A run of a listener is a row of dispatches

A listener receives every datagram into one buffer, notes what became of each,
and goes on until it is asked to stop or the operator's stream fails. What it
does to the stream is nothing but **the dispatches of its datagrams in order**,
each cut to the size of the buffer, up to the first that fails
(`run_eq_dispatches`); and what it notes is one outcome for each dispatch that
did not fail, and the stop if none did. Where nothing could be received, that is noted in
its place, and makes no difference otherwise.

Two things could be in the way. The buffer keeps the bytes of longer datagrams
behind the end of shorter ones, but no more is looked at than was received
(`take_receiveInto`), so what a run does is the same from any buffer of the
right size. And a dispatch reads the stream that the ones before have left; so the
run is followed in two steps, up to some arrival (`runFrom_append`) and from
there, with the stream of the one handed to the other.
-/

namespace PeerTelemetry

/-- **What a listener sees of a datagram**: as much of it as its buffer holds. -/
def Datagram.seen (d : Datagram) : List UInt8 := d.payload.take maxDatagram

/-! ## The buffer -/

/-- Receiving does not change the size of the buffer. -/
@[simp] theorem length_receiveInto (buffer payload : List UInt8) :
    (receiveInto buffer payload).1.length = buffer.length := by
  unfold receiveInto
  simp only [List.length_append, List.length_drop, List.length_take]
  omega

/-- **What was received is all that is looked at**, whatever the buffer held. -/
theorem take_receiveInto {buffer : List UInt8} (d : Datagram)
    (hbuffer : buffer.length = maxDatagram) :
    (receiveInto buffer d.payload).1.take (receiveInto buffer d.payload).2 = d.seen := by
  unfold receiveInto Datagram.seen
  rw [hbuffer]
  exact List.take_left' rfl

/-- **The datagrams among what arrives**, in order. -/
def datagrams (arrivals : List Arrival) : List Datagram := arrivals.filterMap Except.toOption

namespace Listener

variable {l : Listener} (stop : Shutdown) {buffer : List UInt8} {s t : Stream}

/-- **The dispatch of one datagram** as a listener sees it. -/
def handle (l : Listener) (d : Datagram) : Output Outcome := dispatch l.policy d.seen d.sender.ip

/-- **What a datagram contributes** to the stream: the text of its entry. -/
def contribution (policy : DecodePolicy) (d : Datagram) : List UInt8 :=
  utf8 (examine policy d.seen d.sender.ip).1.text

/-- **What becomes of a datagram** once it has been shown: a report with its sequence
number and the count of its peers, or no report for a reason. -/
def outcome (policy : DecodePolicy) (d : Datagram) : Outcome :=
  match Report.decode policy d.seen with
  | .ok r => .reported r.sequence r.peers.length
  | .error reason => .ignored reason

/-- The notice of what became of a datagram. -/
def outcomeNotice (policy : DecodePolicy) (d : Datagram) : Notice :=
  .received d.sender (outcome policy d)

/-- The notice of an arrival. -/
def arrivalNotice (policy : DecodePolicy) : Arrival → Notice
  | .ok d => outcomeNotice policy d
  | .error cause => .receiveFailed cause.message

theorem examine_snd (policy : DecodePolicy) (d : Datagram) :
    (examine policy d.seen d.sender.ip).2 = outcome policy d := by
  unfold examine outcome
  cases Report.decode policy d.seen <;> rfl

/-! ## One datagram -/

/-- A dispatch that succeeds concludes what becomes of the datagram. -/
theorem eq_outcome_of_runOn_handle {d : Datagram} {o : Outcome}
    (h : (l.handle d).runOn s = (.ok o, t)) : o = outcome l.policy d := by
  rw [handle, runOn_dispatch, examine_snd] at h
  rcases hshow : (examine l.policy d.seen d.sender.ip).1.show.runOn s with ⟨_ | _, u⟩
  · rw [hshow] at h
    cases h
  · rw [hshow] at h
    cases h
    rfl

/-- A datagram that is dispatched is noted. -/
theorem runOn_receive_of_ok {d : Datagram} {o : Outcome} (hbuffer : buffer.length = maxDatagram)
    (h : (l.handle d).runOn s = (.ok o, t)) :
    (l.receive buffer (.ok d)).runOn s
      = (.ok ((receiveInto buffer d.payload).1, outcomeNotice l.policy d), t) := by
  obtain rfl := eq_outcome_of_runOn_handle h
  unfold receive
  dsimp only
  rw [take_receiveInto d hbuffer]
  exact Output.runOn_bind_of_ok h

/-- A datagram whose dispatch fails is not. -/
theorem runOn_receive_of_error {d : Datagram} {e : StreamError}
    (hbuffer : buffer.length = maxDatagram) (h : (l.handle d).runOn s = (.error e, t)) :
    (l.receive buffer (.ok d)).runOn s = (.error e, t) := by
  unfold receive
  dsimp only
  rw [take_receiveInto d hbuffer]
  exact Output.runOn_bind_of_error h

/-- Behind an arrival that is noted the run goes on. -/
theorem runFrom_cons_of_ok {a : Arrival} {buffer' : List UInt8} {n : Notice} (rest : List Arrival)
    (h : (l.receive buffer a).runOn s = (.ok (buffer', n), t)) :
    l.runFrom stop buffer s (a :: rest)
      = { l.runFrom stop buffer' t rest with
          notices := n :: (l.runFrom stop buffer' t rest).notices } := by
  rw [runFrom]
  simp only [h]

/-- An arrival that is not ends it. -/
theorem runFrom_cons_of_error {a : Arrival} {e : StreamError} (rest : List Arrival)
    (h : (l.receive buffer a).runOn s = (.error e, t)) :
    l.runFrom stop buffer s (a :: rest) = ⟨.error (.output e.message), t, [], []⟩ := by
  rw [runFrom]
  simp only [h]

/-! ## Many -/

/-- **A run up to some arrival is the dispatches before it**: the rest of the run
goes on from the stream they leave, with some buffer of the same size, and
what became of them is noted in front of what the rest notes. -/
theorem runFrom_append {before : List Arrival} {outcomes : List Outcome}
    (after : List Arrival) (hbuffer : buffer.length = maxDatagram)
    (h : ((datagrams before).mapM l.handle).runOn s = (.ok outcomes, t)) :
    ∃ buffer' : List UInt8, buffer'.length = maxDatagram
      ∧ l.runFrom stop buffer s (before ++ after)
        = { l.runFrom stop buffer' t after with
            notices := before.map (arrivalNotice l.policy)
              ++ (l.runFrom stop buffer' t after).notices } := by
  -- The stream is the one the dispatches so far have left; of the buffer only the size
  -- is carried along, since what it holds is overwritten or not looked at.
  induction before generalizing buffer s outcomes with
  | nil =>
    cases h
    exact ⟨buffer, hbuffer, rfl⟩
  | cons a before ih =>
    cases a with
    | error cause =>
      obtain ⟨buffer', hbuffer', hrun⟩ := ih hbuffer h
      refine ⟨buffer', hbuffer', ?_⟩
      have hreceive : (l.receive buffer (.error cause)).runOn s
          = (.ok (buffer, .receiveFailed cause.message), s) := rfl
      rw [List.cons_append, runFrom_cons_of_ok stop (before ++ after) hreceive, hrun]
      rfl
    | ok d =>
      obtain ⟨o, outcomes', u, hd, hbefore, rfl⟩ := Output.exists_of_runOn_mapM_cons h
      have hlength : (receiveInto buffer d.payload).1.length = maxDatagram := by
        rw [length_receiveInto, hbuffer]
      obtain ⟨buffer', hbuffer', hrun⟩ := ih hlength hbefore
      refine ⟨buffer', hbuffer', ?_⟩
      rw [List.cons_append,
        runFrom_cons_of_ok stop (before ++ after) (runOn_receive_of_ok hbuffer hd), hrun]
      rfl

/-- On a stream that never fails every dispatch of a run succeeds, and contributes
what is its datagram's own. -/
theorem runOn_mapM_handle_of_unfailing (datagrams : List Datagram) (h : s.Unfailing) :
    (datagrams.mapM l.handle).runOn s
      = (.ok (datagrams.map (outcome l.policy)),
        { s with
          written := s.written ++ datagrams.flatMap (contribution l.policy)
          flushes := s.flushes + datagrams.length }) := by
  induction datagrams generalizing s with
  | nil => simp
  | cons d datagrams ih =>
    have hd : (l.handle d).runOn s = (.ok (outcome l.policy d),
        s.shown (contribution l.policy d)) := by
      rw [handle, runOn_dispatch, Entry.runOn_show_of_unfailing _ h, examine_snd]
      rfl
    rw [Output.runOn_mapM_cons_of_ok datagrams hd, ih (h.shown _)]
    simp only [Stream.shown, List.flatMap_cons, List.append_assoc, List.length_cons, Nat.add_assoc,
      Nat.add_comm 1]
    rfl

/-! ## The run -/

theorem length_emptyBuffer : emptyBuffer.length = maxDatagram :=
  List.length_replicate

/-- A run whose dispatches all succeed comes to its stop, and has noted all that arrived. -/
theorem run_of_ok {arrivals : List Arrival} {outcomes : List Outcome}
    (h : ((datagrams arrivals).mapM l.handle).runOn s = (.ok outcomes, t)) :
    l.run stop s arrivals = { stop.run t with
      notices := arrivals.map (arrivalNotice l.policy) ++ (stop.run t).notices } := by
  obtain ⟨buffer', -, hrun⟩ := runFrom_append stop [] length_emptyBuffer h
  rw [List.append_nil] at hrun
  exact hrun

/-- A run one of whose dispatches fails ends there, and has noted what arrived before. -/
theorem run_of_error {before : List Arrival} {d : Datagram} {outcomes : List Outcome}
    {u : Stream} {e : StreamError} (after : List Arrival)
    (hbefore : ((datagrams before).mapM l.handle).runOn s = (.ok outcomes, t))
    (hd : (l.handle d).runOn t = (.error e, u)) :
    l.run stop s (before ++ .ok d :: after)
      = ⟨.error (.output e.message), u, before.map (arrivalNotice l.policy), []⟩ := by
  obtain ⟨buffer', hbuffer', hrun⟩ :=
    runFrom_append stop (.ok d :: after) length_emptyBuffer hbefore
  rw [runFrom_cons_of_error stop after (runOn_receive_of_error hbuffer' hd), List.append_nil]
    at hrun
  exact hrun

/-- Where the datagrams are cut in two, so is what arrives. -/
theorem exists_of_datagrams_eq {arrivals : List Arrival} {before after : List Datagram}
    {d : Datagram} (h : datagrams arrivals = before ++ d :: after) :
    ∃ before' after' : List Arrival, arrivals = before' ++ .ok d :: after'
      ∧ datagrams before' = before := by
  obtain ⟨before', behind, rfl, hbefore, hbehind⟩ := List.filterMap_eq_append_iff.mp h
  obtain ⟨skipped, a, after', rfl, hskipped, ha, -⟩ := List.filterMap_eq_cons_iff.mp hbehind
  have hd : a = .ok d := by
    cases a with
    | error => cases ha
    | ok d' => rw [Option.some.inj ha]
  refine ⟨before' ++ skipped, after', by rw [hd, List.append_assoc], ?_⟩
  rw [datagrams, List.filterMap_append, hbefore, List.filterMap_eq_nil_iff.mpr hskipped,
    List.append_nil]

/-- **A run is the dispatches of its datagrams in order**, each cut to the size of
the buffer, up to the first that fails.

The stream is left as the dispatches leave it, every byte and every flush. The run
ends well exactly when no dispatch fails; then there is one notice for each
arrival, in order, for a datagram at debug level, with its sender and what its dispatch made
of it, and then that the listener stops. Otherwise it fails for the stream, with the stream's
own failure behind; the dispatch that failed is the last to touch the stream, and the notices are
those of what arrived before it. On a stream that never fails every run ends well,
and what a datagram contributes to the stream is its own, told from the datagram, its
sender and the policy. That something could not be received changes none of this.

A listener that does not learn its address as it stops fails for that, and has done everything
else. -/
theorem run_eq_dispatches (l : Listener) (request : List Notice) (address : SocketAddress)
    (s : Stream) (arrivals : List Arrival) :
    let dispatches := ((datagrams arrivals).mapM l.handle).runOn s
    let run := l.run ⟨request, .ok address⟩ s arrivals
    run.stream = dispatches.2
    ∧ (run.conclusion = .ok () ↔ ∃ outcomes, dispatches.1 = .ok outcomes)
    ∧ (∀ outcomes, dispatches.1 = .ok outcomes →
      outcomes = (datagrams arrivals).map (outcome l.policy)
      ∧ run.notices
        = arrivals.map (arrivalNotice l.policy) ++ (request ++ [.stopping address])
      ∧ ∀ d ∈ datagrams arrivals, (arrivalNotice l.policy (.ok d)).severity = .debug)
    ∧ (∀ e, dispatches.1 = .error e →
      (∃ cause, run.conclusion = .error cause
        ∧ cause.message = "failed to write to operator output" ∧ cause.causes = [e.message])
      ∧ ∃ before d after outcomes t, arrivals = before ++ .ok d :: after
        ∧ ((datagrams before).mapM l.handle).runOn s = (.ok outcomes, t)
        ∧ (l.handle d).runOn t = (.error e, run.stream)
        ∧ run.notices = before.map (arrivalNotice l.policy))
    ∧ (s.Unfailing → run.conclusion = .ok ()
      ∧ run.stream.written = s.written ++ (datagrams arrivals).flatMap (contribution l.policy)
      ∧ run.stream.flushes = s.flushes + (datagrams arrivals).length)
    ∧ (∀ outcomes cause, dispatches.1 = .ok outcomes →
      let lost := l.run ⟨request, .error cause⟩ s arrivals
      lost.conclusion = .error (.socket cause) ∧ lost.stream = run.stream
      ∧ lost.notices = arrivals.map (arrivalNotice l.policy) ++ request) := by
  intro dispatches run
  -- Either all dispatches succeed or one is the first to fail; the six parts are read off
  -- the run and the row of dispatches in each of the two cases.
  rcases Output.runOn_mapM_cases l.handle (datagrams arrivals) s with
    ⟨outcomes, t, hall⟩ | ⟨before', d, after', outcomes, t, e, u, hsplit, hbefore, hd, hall⟩
  · have hrun : run = { Shutdown.run ⟨request, .ok address⟩ t with
        notices := arrivals.map (arrivalNotice l.policy) ++ (request ++ [.stopping address]) } :=
      run_of_ok _ hall
    have hdispatches : dispatches = (.ok outcomes, t) := hall
    rw [hrun, hdispatches]
    refine ⟨rfl, ⟨fun _ => ⟨outcomes, rfl⟩, fun _ => rfl⟩, ?_, ?_, ?_, ?_⟩
    · rintro outcomes' h
      cases h
      exact ⟨Output.eq_map_of_runOn_mapM (fun _ _ _ _ => eq_outcome_of_runOn_handle) hall, rfl,
        fun _ _ => rfl⟩
    · rintro e h
      cases h
    · intro hs
      have hshown := runOn_mapM_handle_of_unfailing (l := l) (datagrams arrivals) hs
      rw [hall] at hshown
      cases hshown
      exact ⟨rfl, rfl, rfl⟩
    · intro _ cause _
      dsimp only
      rw [run_of_ok _ hall]
      exact ⟨rfl, rfl, rfl⟩
  · obtain ⟨before, after, rfl, rfl⟩ := exists_of_datagrams_eq hsplit
    have hrun : run
        = ⟨.error (.output e.message), u, before.map (arrivalNotice l.policy), []⟩ :=
      run_of_error _ after hbefore hd
    have hdispatches : dispatches = (.error e, u) := hall
    rw [hrun, hdispatches]
    refine ⟨rfl, ⟨fun h => ?_, fun h => ?_⟩, ?_, ?_, ?_, ?_⟩
    · cases h
    · obtain ⟨outcomes', h⟩ := h
      cases h
    · rintro outcomes' h
      cases h
    · rintro e' h
      cases h
      exact ⟨⟨.output e.message, rfl, rfl, rfl⟩,
        before, d, after, outcomes, t, rfl, hbefore, hd, rfl⟩
    · intro hs
      rw [runOn_mapM_handle_of_unfailing (l := l) _ hs] at hall
      cases hall
    · rintro outcomes' cause h
      cases h

/-- A lenient listener. -/
def lenientListener : Listener := ⟨⟨.v4 ⟨127, 0, 0, 1⟩, 9998, 0⟩, .lenient⟩

/-- Three bytes, a datagram that cannot be received, an empty report, and a single byte. -/
def threeDatagrams : List Arrival :=
  [.ok ⟨[20, 1, 0], ⟨.v4 ⟨10, 0, 0, 3⟩, 40000, 0⟩⟩,
    .error .tryAgain,
    .ok ⟨[20, 0, 0, 0, 7, 0, 0, 0, 42, 0, 0, 0, 0, 0, 0, 0], ⟨.v4 ⟨10, 0, 0, 3⟩, 40001, 0⟩⟩,
    .ok ⟨[20], ⟨.v4 ⟨10, 0, 0, 4⟩, 40000, 0⟩⟩]

/-- The three datagrams are shown whole where nothing fails; where the second flush fails
the run fails with it. -/
theorem run_eq_dispatches_of_threeDatagrams :
    ((lenientListener.run ⟨[], .ok lenientListener.address⟩ {} threeDatagrams).conclusion = .ok ()
      ∧ (lenientListener.run ⟨[], .ok lenientListener.address⟩ {} threeDatagrams).stream.flushes
        = 3)
    ∧ (((datagrams threeDatagrams).mapM lenientListener.handle).runOn { failingFlush := some 2 }).1
        = .error .flushFailed
      ∧ ∃ cause, (lenientListener.run ⟨[], .ok lenientListener.address⟩ { failingFlush := some 2 }
            threeDatagrams).conclusion = .error cause
        ∧ cause.message = "failed to write to operator output"
        ∧ cause.causes = ["operator flush failed"] := by
  have hfails : (((datagrams threeDatagrams).mapM lenientListener.handle).runOn
      { failingFlush := some 2 }).1 = .error .flushFailed := rfl
  obtain ⟨hok, -, hflushes⟩ := (run_eq_dispatches lenientListener [] lenientListener.address {}
    threeDatagrams).2.2.2.2.1 ⟨rfl, rfl⟩
  obtain ⟨hcause, -⟩ := (run_eq_dispatches lenientListener [] lenientListener.address
    { failingFlush := some 2 } threeDatagrams).2.2.2.1 _ hfails
  exact ⟨⟨hok, hflushes⟩, hfails, hcause⟩

end Listener

end PeerTelemetry
