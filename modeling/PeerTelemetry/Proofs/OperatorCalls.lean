import PeerTelemetry.Proofs.OperatorStream

/-!
# Nothing is lost, and nothing is added

The operator's stream may give out inside any piece of any entry, one of its flushes may
fail, and whoever shows entries may go on all the same. What the stream has taken in the
end is still told from two things, the full texts of everything that was to be shown and
the room there was: it is **the texts one after another, cut where the room ended**
(`Stream.written_after`).

That a failed call is followed by another does no harm for one reason: a text that does not
fit uses up the room, so that nothing of a later one can be taken in behind the gap. And a
flush that fails has nothing to take back. So each call does to the bytes what one write of
its full text does (`Call.runOn_perform_snd`), and a row of writes is one
write of all of it (`Stream.exists_after_eq`).
-/

namespace PeerTelemetry

/-! ## Calls -/

/-- **A call that shows something to the operator**: a report, the remark that a datagram was
ignored, or whichever of the two a datagram calls for under a policy. -/
inductive Call
  | report (r : Report) (sender : IpAddress)
  | ignored (length : Nat) (sender : IpAddress)
  | dispatch (policy : DecodePolicy) (payload : List UInt8) (sender : IpAddress)

namespace Call

/-- **Performs a call.** Only a dispatch has an outcome to return. -/
def perform : Call → Output (Option Outcome)
  | report r sender => (fun _ => none) <$> (Entry.report r sender).show
  | ignored length sender => (fun _ => none) <$> (Entry.ignored length sender).show
  | dispatch policy payload sender => some <$> PeerTelemetry.dispatch policy payload sender

/-- **The entry a call shows.** -/
def entry : Call → Entry
  | report r sender => .report r sender
  | ignored length sender => .ignored length sender
  | dispatch policy payload sender =>
    match Report.decode policy payload with
    | .ok r => .report r sender
    | .error _ => .ignored payload.length sender

/-- **The full text of a call**: the lines of its entry, each with the end of its line. -/
def text (c : Call) : List UInt8 := utf8 (c.entry.lines.flatMap (· ++ ['\n']))

/-- What a datagram is examined to be is what a dispatch shows. -/
theorem entry_dispatch (policy : DecodePolicy) (payload : List UInt8) (sender : IpAddress) :
    (dispatch policy payload sender).entry = (examine policy payload sender).1 := by
  simp only [entry, examine]
  cases Report.decode policy payload <;> rfl

end Call

/-- **The stream behind a row of calls**, each performed on the stream that those before it
left, whether they failed or not. -/
def Stream.after (s : Stream) : List Call → Stream
  | [] => s
  | c :: rest => (c.perform.runOn s).2.after rest

/-! ## One call -/

/-- **The stream behind a text that was to be shown**: what fits of it is taken, and it is
flushed if all of it fits. -/
def Stream.offered (s : Stream) (bytes : List UInt8) : Stream :=
  { s.taken bytes with flushes := s.flushes + if s.fits bytes.length then 1 else 0 }

/-- To show an entry is to offer its text. -/
theorem Entry.runOn_show_snd (e : Entry) (s : Stream) :
    (e.show.runOn s).2 = s.offered (utf8 e.text) := by
  rw [runOn_show]
  unfold Stream.offered
  cases s.fits (utf8 e.text).length <;> rfl

/-- **To perform a call is to offer its full text**, whatever comes of the call. -/
theorem Call.runOn_perform_snd (c : Call) (s : Stream) :
    (c.perform.runOn s).2 = s.offered c.text := by
  cases c with
  | report r sender =>
    show (((fun _ => none) <$> (Entry.report r sender).show : Output _).runOn s).2 = _
    rw [Output.runOn_map, Entry.runOn_show_snd]
    rfl
  | ignored length sender =>
    show (((fun _ => none) <$> (Entry.ignored length sender).show : Output _).runOn s).2 = _
    rw [Output.runOn_map, Entry.runOn_show_snd]
    rfl
  | dispatch policy payload sender =>
    show ((some <$> PeerTelemetry.dispatch policy payload sender : Output _).runOn s).2 = _
    rw [Output.runOn_map, runOn_dispatch, Entry.runOn_show_snd, ← entry_dispatch]
    rfl

/-! ## Many -/

/-- **A row of calls takes what one write of all their texts would take**; only the number
of flushes tells them apart. -/
theorem Stream.exists_after_eq (s : Stream) (calls : List Call) :
    ∃ flushes : Nat, s.after calls = { s.taken (calls.flatMap Call.text) with flushes } := by
  induction calls generalizing s with
  | nil => exact ⟨s.flushes, by rw [List.flatMap_nil, taken_nil]; rfl⟩
  | cons c rest ih =>
    obtain ⟨flushes, hrest⟩ := ih (s.offered c.text)
    refine ⟨flushes, ?_⟩
    rw [after, Call.runOn_perform_snd, hrest, List.flatMap_cons, taken_append]
    rfl

/-- **Nothing is lost and nothing is added.** After any row of calls, some of which may have
failed, the stream has taken the full texts of all of them in order, as far as
there was room for them: all of them where there is no end to the room, and else so many of
their first bytes as there was room for. -/
theorem Stream.written_after (s : Stream) (calls : List Call) :
    (s.after calls).written
      = s.written ++ (calls.flatMap Call.text).take
          (s.room.elim (calls.flatMap Call.text).length
            fun limit => min limit (calls.flatMap Call.text).length) := by
  obtain ⟨flushes, hafter⟩ := s.exists_after_eq calls
  rw [hafter]
  show s.written ++ (s.room.elim _ fun room => (calls.flatMap Call.text).take room) = _
  cases s.room with
  | none => exact congrArg (s.written ++ ·) List.take_length.symm
  | some room =>
    refine congrArg (s.written ++ ·) ?_
    rw [Option.elim_some, Option.elim_some, List.take_eq_take_min]

end PeerTelemetry
