import PeerTelemetry.Operator.Stream

/-!
# Writing to the operator's stream

An entry is written in many pieces, a line and the end of a line at a time, and
the stream may give out inside any of them. None of this shows in what the
stream has taken: **to write two pieces one after the other is to write them as
one** (`Stream.write_append`), because a piece that does not fit leaves no room
for the next. So showing an entry is one write of its whole text and one flush
(`Entry.show_eq`), and what a dispatch does to the stream is told from the text
alone.

A write is told from two things, whether the bytes fit (`Stream.fits`) and what
the stream is behind it (`Stream.taken`), which holds the same bytes whether the
write failed or not. Everything about writing is stated with these two.
-/

namespace PeerTelemetry

/-! ## Actions one after another -/

namespace Output

variable {α β : Type} {s t : Stream}

@[simp] theorem runOn_pure (a : α) (s : Stream) : (pure a : Output α).runOn s = (.ok a, s) := rfl

/-- What follows an action that succeeded goes on from the stream it left. -/
theorem runOn_bind_of_ok {x : Output α} {f : α → Output β} {a : α}
    (h : x.runOn s = (.ok a, t)) : (x >>= f).runOn s = (f a).runOn t := by
  show ExceptT.bindCont f (x s).1 (x s).2 = f a t
  rw [show x s = (.ok a, t) from h]
  rfl

/-- Nothing follows an action that failed. -/
theorem runOn_bind_of_error {x : Output α} {f : α → Output β} {e : StreamError}
    (h : x.runOn s = (.error e, t)) : (x >>= f).runOn s = (.error e, t) := by
  show ExceptT.bindCont f (x s).1 (x s).2 = (.error e, t)
  rw [show x s = (.error e, t) from h]
  rfl

/-- What is made of the result of an action does nothing to the stream. -/
theorem runOn_map (f : α → β) (x : Output α) (s : Stream) :
    (f <$> x).runOn s = ((x.runOn s).1.map f, (x.runOn s).2) := by
  rw [map_eq_pure_bind]
  rcases hx : x.runOn s with ⟨_ | a, t⟩
  · exact runOn_bind_of_error hx
  · exact runOn_bind_of_ok hx

/-- A row of actions goes on behind its first one with the rest. -/
theorem runOn_mapM_cons_of_ok {f : α → Output β} {a : α} {b : β} (l : List α)
    (ha : (f a).runOn s = (.ok b, t)) :
    ((a :: l).mapM f).runOn s
      = (((l.mapM f).runOn t).1.map (b :: ·), ((l.mapM f).runOn t).2) := by
  rw [List.mapM_cons, runOn_bind_of_ok ha, bind_pure_comp, runOn_map]

/-- A row of actions ends with its first one if that fails. -/
theorem runOn_mapM_cons_of_error {f : α → Output β} {a : α} {e : StreamError} (l : List α)
    (ha : (f a).runOn s = (.error e, t)) :
    ((a :: l).mapM f).runOn s = (.error e, t) := by
  rw [List.mapM_cons]
  exact runOn_bind_of_error ha

/-- A row of actions that succeeds is a first one that does, and a rest that does. -/
theorem exists_of_runOn_mapM_cons {f : α → Output β} {a : α} {l : List α} {bs : List β}
    (h : ((a :: l).mapM f).runOn s = (.ok bs, t)) :
    ∃ b bs' u, (f a).runOn s = (.ok b, u) ∧ (l.mapM f).runOn u = (.ok bs', t)
      ∧ bs = b :: bs' := by
  rcases ha : (f a).runOn s with ⟨_ | b, u⟩
  · rw [runOn_mapM_cons_of_error l ha] at h
    exact absurd h (by simp)
  rw [runOn_mapM_cons_of_ok l ha] at h
  rcases hl : (l.mapM f).runOn u with ⟨_ | bs', v⟩
  · rw [hl] at h
    exact absurd h (by simp [Except.map])
  · rw [hl] at h
    cases h
    exact ⟨b, bs', u, rfl, hl, rfl⟩

/-- What a row of actions results in is told from the row alone if what each of its
actions results in does not depend on the stream. -/
theorem eq_map_of_runOn_mapM {f : α → Output β} {value : α → β}
    (hvalue : ∀ a s b t, (f a).runOn s = (.ok b, t) → b = value a) {l : List α} {bs : List β}
    (h : (l.mapM f).runOn s = (.ok bs, t)) : bs = l.map value := by
  induction l generalizing s bs with
  | nil =>
    cases h
    rfl
  | cons a l ih =>
    obtain ⟨b, bs', u, ha, hl, rfl⟩ := exists_of_runOn_mapM_cons h
    rw [List.map_cons, hvalue a s b u ha, ih hl]

/-- **A row of actions succeeds throughout, or one of them is the first to fail**,
and then the row leaves the stream as that one did. -/
theorem runOn_mapM_cases (f : α → Output β) (l : List α) (s : Stream) :
    (∃ bs t, (l.mapM f).runOn s = (.ok bs, t))
      ∨ ∃ before a after bs u e t, l = before ++ a :: after
        ∧ (before.mapM f).runOn s = (.ok bs, u) ∧ (f a).runOn u = (.error e, t)
        ∧ (l.mapM f).runOn s = (.error e, t) := by
  induction l generalizing s with
  | nil => exact Or.inl ⟨[], s, rfl⟩
  | cons a l ih =>
    rcases ha : (f a).runOn s with ⟨e | b, t⟩
    · exact Or.inr ⟨[], a, l, [], s, e, t, rfl, rfl, ha, runOn_mapM_cons_of_error l ha⟩
    have hcons := fun l' => runOn_mapM_cons_of_ok l' ha
    rcases ih t with ⟨bs, u, hl⟩ | ⟨before, c, after, bs, u, e, v, rfl, hbefore, hc, hl⟩
    · exact Or.inl ⟨b :: bs, u, by rw [hcons, hl]; rfl⟩
    · refine Or.inr ⟨a :: before, c, after, b :: bs, u, e, v, rfl, ?_, hc, ?_⟩
      · rw [hcons, hbefore]
        rfl
      · rw [hcons, hl]
        rfl

/-- Two actions are one when they do the same to every stream. -/
theorem ext_runOn {x y : Output α} (h : ∀ s, x.runOn s = y.runOn s) : x = y :=
  funext h

end Output

/-! ## Writes -/

namespace Stream

/-- **Whether there is room** for so many bytes. -/
def fits (s : Stream) (length : Nat) : Bool := s.room.all fun room => length ≤ room

/-- **The stream behind a write**, whether all of the bytes fit or not. -/
def taken (s : Stream) (bytes : List UInt8) : Stream :=
  { s with
    room := s.room.map (· - bytes.length)
    written := s.written ++ (s.room.elim bytes fun room => bytes.take room) }

/-- **A write takes what there is room for**, and fails if that is not all. -/
theorem runOn_write (bytes : List UInt8) (s : Stream) :
    (write bytes).runOn s
      = (if s.fits bytes.length then .ok () else .error .closed, s.taken bytes) := by
  show write bytes s = _
  unfold write fits taken
  cases hroom : s.room with
  | none => simp
  | some room => simp

/-- Two pieces fit when the first does and the second does behind it. -/
theorem fits_append (s : Stream) (a b : List UInt8) :
    s.fits (a ++ b).length = (s.fits a.length && (s.taken a).fits b.length) := by
  unfold fits taken
  cases s.room with
  | none => rfl
  | some room =>
    rw [List.length_append, Option.map_some, Option.all_some, Option.all_some, Option.all_some,
      ← Bool.decide_and, decide_eq_decide]
    omega

/-- What two pieces leave is what the second leaves behind the first. -/
theorem taken_append (s : Stream) (a b : List UInt8) :
    s.taken (a ++ b) = (s.taken a).taken b := by
  unfold taken
  cases s.room with
  | none => simp
  | some room => simp [List.take_append, Nat.sub_sub]

/-- Behind a piece that did not fit there is no room left. -/
theorem taken_of_not_fits {s : Stream} {a : List UInt8} (h : s.fits a.length = false)
    (b : List UInt8) : (s.taken a).taken b = s.taken a := by
  unfold fits at h
  unfold taken
  cases hroom : s.room with
  | none => rw [hroom] at h; exact absurd h (by simp)
  | some room =>
    rw [hroom, Option.all_some, decide_eq_false_iff_not] at h
    have hfull : room - a.length = 0 := by omega
    simp [hfull]

@[simp] theorem fits_zero (s : Stream) : s.fits 0 = true := by
  unfold fits
  cases s.room <;> simp

@[simp] theorem taken_nil (s : Stream) : s.taken [] = s := by
  obtain ⟨room, failingFlush, written, flushes⟩ := s
  unfold taken
  cases room <;> simp

/-- To write nothing is to do nothing. -/
theorem write_nil : write [] = pure () := by
  refine Output.ext_runOn (fun s => ?_)
  rw [runOn_write, List.length_nil, fits_zero, taken_nil]
  rfl

/-- **To write two pieces is to write them as one**, also where the stream gives
out inside the first or the second. -/
theorem write_append (a b : List UInt8) : write (a ++ b) = (do write a; write b) := by
  refine Output.ext_runOn (fun s => ?_)
  rw [runOn_write, fits_append, taken_append]
  cases hfits : s.fits a.length with
  | true =>
    have ha : (write a).runOn s = (.ok (), s.taken a) := by rw [runOn_write, hfits]; rfl
    rw [Output.runOn_bind_of_ok ha, runOn_write]
    rfl
  | false =>
    -- The second piece is not even tried, and as one piece it would have found no room.
    have ha : (write a).runOn s = (.error .closed, s.taken a) := by rw [runOn_write, hfits]; rfl
    rw [Output.runOn_bind_of_error ha, taken_of_not_fits hfits]
    rfl

/-- A flush counts whether it fails or not. -/
theorem runOn_flush (s : Stream) :
    flush.runOn s = (if s.failingFlush = some (s.flushes + 1) then .error .flushFailed else .ok (),
      { s with flushes := s.flushes + 1 }) := rfl

end Stream

/-! ## Entries -/

/-- The bytes of two texts are the bytes of the one and then of the other. -/
theorem utf8_append (a b : List Char) : utf8 (a ++ b) = utf8 a ++ utf8 b := by
  unfold utf8
  exact List.flatMap_append

/-- A line and its end are written as one. -/
theorem writeLine_eq (line : List Char) :
    writeLine line = Stream.write (utf8 (line ++ ['\n'])) := by
  rw [utf8_append, Stream.write_append]
  rfl

/-- Lines are written as one text. -/
theorem forM_writeLine (lines : List (List Char)) :
    lines.forM writeLine = Stream.write (utf8 (lines.flatMap (· ++ ['\n']))) := by
  induction lines with
  | nil => exact Stream.write_nil.symm
  | cons line lines ih =>
    rw [List.flatMap_cons, utf8_append, Stream.write_append, ← ih, ← writeLine_eq]
    exact List.forM_cons

/-- **To show an entry is to write its text and to flush.** -/
theorem Entry.show_eq (e : Entry) :
    e.show = (do Stream.write (utf8 e.text); Stream.flush) := by
  unfold Entry.show Entry.text
  rw [forM_writeLine]

/-- **What showing an entry does to any stream**: its text is taken as far as there
is room, and the flush comes only behind the whole of it. -/
theorem Entry.runOn_show (e : Entry) (s : Stream) :
    e.show.runOn s
      = if s.fits (utf8 e.text).length then Stream.flush.runOn (s.taken (utf8 e.text))
        else (.error .closed, s.taken (utf8 e.text)) := by
  rw [show_eq]
  have hwrite := Stream.runOn_write (utf8 e.text) s
  split
  · rename_i hfits
    rw [if_pos hfits] at hwrite
    exact Output.runOn_bind_of_ok hwrite
  · rename_i hfits
    rw [if_neg hfits] at hwrite
    exact Output.runOn_bind_of_error hwrite

/-- **A stream that never fails**: it has room for everything, and none of its
flushes fails. -/
structure Stream.Unfailing (s : Stream) : Prop where
  room_eq : s.room = none
  failingFlush_eq : s.failingFlush = none

/-- The stream behind bytes that were written whole and flushed. -/
def Stream.shown (s : Stream) (bytes : List UInt8) : Stream :=
  { s with written := s.written ++ bytes, flushes := s.flushes + 1 }

/-- A stream that never fails does not begin to. -/
theorem Stream.Unfailing.shown {s : Stream} (h : s.Unfailing) (bytes : List UInt8) :
    (s.shown bytes).Unfailing :=
  ⟨h.room_eq, h.failingFlush_eq⟩

/-- On a stream that never fails an entry is shown whole, and is flushed. -/
theorem Entry.runOn_show_of_unfailing (e : Entry) {s : Stream} (h : s.Unfailing) :
    e.show.runOn s = (.ok (), s.shown (utf8 e.text)) := by
  have hfits : s.fits (utf8 e.text).length = true := by
    unfold Stream.fits
    rw [h.room_eq]
    rfl
  have htaken : s.taken (utf8 e.text) = { s with written := s.written ++ utf8 e.text } := by
    unfold Stream.taken
    rw [h.room_eq]
    rfl
  rw [runOn_show, if_pos hfits, htaken, Stream.runOn_flush, if_neg (by simp [h.failingFlush_eq])]
  rfl

/-- **A dispatch shows the entry of a datagram**, and concludes what became of it
once the entry has been shown. -/
theorem runOn_dispatch (policy : DecodePolicy) (payload : List UInt8) (sender : IpAddress)
    (s : Stream) :
    (dispatch policy payload sender).runOn s
      = (((examine policy payload sender).1.show.runOn s).1.map
          (fun _ => (examine policy payload sender).2),
        ((examine policy payload sender).1.show.runOn s).2) := by
  have hdispatch : dispatch policy payload sender
      = (fun _ => (examine policy payload sender).2) <$> (examine policy payload sender).1.show :=
    bind_pure_comp _ _
  rw [hdispatch, Output.runOn_map]

end PeerTelemetry
