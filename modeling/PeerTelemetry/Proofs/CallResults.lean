import Mathlib.Data.List.Induction
import PeerTelemetry.Proofs.OperatorCalls
import PeerTelemetry.Proofs.UniqueReading

/-!
# What calls return, and when they flush

A call that shows something can fail in two ways that have nothing to do with each other:
the stream may have no room for its text, or its flush may be the one that fails. Which of
them comes about depends on all the calls before it, and **on no more of them than the sum
of their lengths and the number of their flushes** (`Stream.result_eq`). With room
counted from the start, a call has room for its text exactly when the texts up to and
with its own fit into the stream; so the calls that find room are the first ones, up to some
call, and each of those flushes once.

That a call for which there is no room leaves none to those behind it rests on a small
thing: every call has something to write (`Call.length_text_pos`). A call with an empty text
would succeed on a full stream, and behind it the sums would no longer tell the two
apart.
-/

namespace PeerTelemetry

namespace Call

/-- **What a call returns if nothing fails**: a dispatch its outcome, the others nothing. -/
def answer : Call → Option Outcome
  | report _ _ | ignored _ _ => none
  | dispatch policy payload _ =>
    match Report.decode policy payload with
    | .ok r => some (.reported r.sequence r.peers.length)
    | .error reason => some (.ignored reason)

/-- **The bytes of a row of calls**: the lengths of their full texts in all. -/
def textLength : List Call → Nat
  | [] => 0
  | c :: calls => c.text.length + textLength calls

theorem textLength_eq (calls : List Call) :
    textLength calls = (calls.flatMap text).length := by
  induction calls with
  | nil => rfl
  | cons c calls ih => rw [textLength, ih, List.flatMap_cons, List.length_append]

theorem textLength_append (calls calls' : List Call) :
    textLength (calls ++ calls') = textLength calls + textLength calls' := by
  simp only [textLength_eq, List.flatMap_append, List.length_append]

/-- **Every call has something to write.** -/
theorem length_text_pos (c : Call) : 0 < c.text.length := by
  obtain ⟨line, rest, hlines⟩ := List.exists_cons_of_ne_nil c.entry.lines_ne_nil
  unfold text
  rw [hlines, List.flatMap_cons, utf8_append, utf8_append, List.length_append, List.length_append]
  have hend : (utf8 ['\n']).length = 1 := rfl
  omega

/-- What a dispatch concludes is its answer. -/
theorem answer_dispatch (policy : DecodePolicy) (payload : List UInt8) (sender : IpAddress) :
    (dispatch policy payload sender).answer = some (examine policy payload sender).2 := by
  simp only [answer, examine]
  cases Report.decode policy payload <;> rfl

/-- **A call is one write, one flush behind it, and an answer.** -/
theorem perform_eq (c : Call) :
    c.perform = (do Stream.write c.text; Stream.flush; return c.answer) := by
  have hshow : ∀ {α : Type} (e : Entry) (a : α),
      (fun _ => a) <$> e.show = (do Stream.write (utf8 e.text); Stream.flush; return a) := by
    intro α e a
    rw [e.show_eq, map_eq_pure_bind, bind_assoc]
  cases c with
  | report r sender => exact hshow (Entry.report r sender) none
  | ignored length sender => exact hshow (Entry.ignored length sender) none
  | dispatch policy payload sender =>
    have hdispatch : PeerTelemetry.dispatch policy payload sender
        = (fun _ => (examine policy payload sender).2) <$> (examine policy payload sender).1.show :=
      bind_pure_comp _ _
    show some <$> PeerTelemetry.dispatch policy payload sender = _
    rw [hdispatch, Functor.map_map, hshow, answer_dispatch, text, entry_dispatch]
    rfl

/-- **What a call returns**: it fails where its text does not fit, it fails where its flush
does, and else it returns its answer. -/
theorem runOn_perform_fst (c : Call) (s : Stream) :
    (c.perform.runOn s).1
      = if s.fits c.text.length then
          if s.failingFlush = some (s.flushes + 1) then .error .flushFailed else .ok c.answer
        else .error .closed := by
  rw [perform_eq]
  have hwrite := Stream.runOn_write c.text s
  split
  · rename_i hfits
    rw [if_pos hfits] at hwrite
    rw [Output.runOn_bind_of_ok hwrite]
    have hflush : Stream.flush.runOn (s.taken c.text)
        = (if s.failingFlush = some (s.flushes + 1) then .error .flushFailed else .ok (),
          { s.taken c.text with flushes := s.flushes + 1 }) := rfl
    split
    · rename_i hfails
      rw [if_pos hfails] at hflush
      rw [Output.runOn_bind_of_error hflush]
    · rename_i hfails
      rw [if_neg hfails] at hflush
      rw [Output.runOn_bind_of_ok hflush, Output.runOn_pure]
  · rename_i hfits
    rw [if_neg hfits] at hwrite
    rw [Output.runOn_bind_of_error hwrite]

end Call

namespace Stream

/-! ## Room, counted from the start -/

/-- Where there is room for more, there is room for less. -/
theorem fits_of_le {s : Stream} {m n : Nat} (hmn : m ≤ n) (h : s.fits n = true) :
    s.fits m = true := by
  unfold fits at h ⊢
  cases hroom : s.room with
  | none => rfl
  | some room =>
    rw [hroom, Option.all_some, decide_eq_true_eq] at h
    rw [Option.all_some, decide_eq_true_eq]
    exact Nat.le_trans hmn h

/-- Behind bytes that did not fit there is no room for anything. -/
theorem not_fits_taken {s : Stream} {bytes : List UInt8} (h : s.fits bytes.length = false)
    {n : Nat} (hn : 0 < n) : (s.taken bytes).fits n = false := by
  unfold fits at h
  unfold fits taken
  cases hroom : s.room with
  | none => rw [hroom] at h; exact absurd h (by simp)
  | some room =>
    rw [hroom, Option.all_some, decide_eq_false_iff_not] at h
    rw [Option.map_some, Option.all_some, decide_eq_false_iff_not]
    omega

/-- Bytes that fit are all taken. -/
theorem written_taken_of_fits {s : Stream} {bytes : List UInt8} (h : s.fits bytes.length = true) :
    (s.taken bytes).written = s.written ++ bytes := by
  unfold fits at h
  unfold taken
  cases hroom : s.room with
  | none => rfl
  | some room =>
    rw [hroom, Option.all_some, decide_eq_true_eq] at h
    exact congrArg (s.written ++ ·) (List.take_of_length_le h)

variable (s : Stream)

/-! ## A call behind others -/

/-- **The result of a call** that is performed behind a row of others, whatever came
of those. -/
def result (before : List Call) (c : Call) : Except StreamError (Option Outcome) :=
  (c.perform.runOn (s.after before)).1

/-- **Whether the texts of a row of calls fit** into the stream, all of them. -/
def fitsAll (calls : List Call) : Bool := s.fits (Call.textLength calls)

theorem after_append (before after : List Call) :
    s.after (before ++ after) = (s.after before).after after := by
  induction before generalizing s with
  | nil => rfl
  | cons c before ih =>
    rw [List.cons_append, Stream.after, ih]
    rfl

theorem after_concat (before : List Call) (c : Call) :
    s.after (before ++ [c]) = (s.after before).offered c.text := by
  rw [after_append, Stream.after, Call.runOn_perform_snd]
  rfl

/-- Which flush fails is settled from the start. -/
theorem failingFlush_after (calls : List Call) :
    (s.after calls).failingFlush = s.failingFlush := by
  obtain ⟨flushes, hafter⟩ := s.exists_after_eq calls
  rw [hafter]
  rfl

/-- **A call finds room for its text** exactly when the texts of the calls before it fit
together with its own. -/
theorem fits_after (before : List Call) (c : Call) :
    (s.after before).fits c.text.length = s.fitsAll (before ++ [c]) := by
  obtain ⟨flushes, hafter⟩ := s.exists_after_eq before
  have hroom : (s.after before).fits c.text.length
      = (s.taken (before.flatMap Call.text)).fits c.text.length := by
    rw [hafter]
    rfl
  have hall : s.fitsAll (before ++ [c])
      = s.fits (before.flatMap Call.text ++ c.text).length := by
    rw [fitsAll, Call.textLength_eq, List.flatMap_append, List.flatMap_singleton]
  rw [hroom, hall, fits_append]
  cases hbefore : s.fits (before.flatMap Call.text).length with
  | true => rfl
  | false => exact not_fits_taken hbefore c.length_text_pos

/-- **What a call returns behind others** is told from the room, the lengths of all texts
up to its own, and the flushes so far. -/
theorem result_eq (before : List Call) (c : Call) :
    s.result before c
      = if s.fitsAll (before ++ [c]) then
          if s.failingFlush = some ((s.after before).flushes + 1) then .error .flushFailed
          else .ok c.answer
        else .error .closed := by
  rw [result, Call.runOn_perform_fst, fits_after, failingFlush_after]

/-- **A call flushes once or not at all**, and it does when its text finds room. -/
theorem flushes_after_concat (before : List Call) (c : Call) :
    (s.after (before ++ [c])).flushes
      = (s.after before).flushes + if s.fitsAll (before ++ [c]) then 1 else 0 := by
  rw [after_concat, ← fits_after]
  rfl

/-- Calls behind a row of calls take no flush back. -/
theorem flushes_after_le (before after : List Call) :
    (s.after before).flushes ≤ (s.after (before ++ after)).flushes := by
  induction after using List.reverseRecOn with
  | nil => exact Nat.le_of_eq (by rw [List.append_nil])
  | append_singleton after c ih =>
    rw [← List.append_assoc, flushes_after_concat]
    exact Nat.le_trans ih (Nat.le_add_right _ _)

/-- A row that does not fit does not fit with more behind it. -/
theorem not_fitsAll_append {s : Stream} {calls : List Call} (h : s.fitsAll calls = false)
    (more : List Call) : s.fitsAll (calls ++ more) = false := by
  rw [Bool.eq_false_iff] at h ⊢
  refine fun hall => h (fits_of_le ?_ hall)
  rw [Call.textLength_append]
  exact Nat.le_add_right _ _

/-- Behind a row that does not fit nothing is flushed any more. -/
theorem flushes_after_of_not_fitsAll {s : Stream} {before : List Call} {c : Call}
    (h : s.fitsAll (before ++ [c]) = false) (after : List Call) :
    (s.after (before ++ c :: after)).flushes = (s.after before).flushes := by
  rw [List.append_cons]
  induction after using List.reverseRecOn with
  | nil => rw [List.append_nil, flushes_after_concat, h, if_neg Bool.false_ne_true, Nat.add_zero]
  | append_singleton after d ih =>
    have hmore : s.fitsAll (before ++ [c] ++ after ++ [d]) = false := by
      rw [List.append_assoc (before ++ [c])]
      exact not_fitsAll_append h (after ++ [d])
    rw [← List.append_assoc, flushes_after_concat, hmore, if_neg Bool.false_ne_true, Nat.add_zero,
      ih]

/-- **The flushes of a row of calls** are as many as those of its beginnings, with one call
or more, that fit. -/
theorem flushes_after (calls : List Call) :
    (s.after calls).flushes
      = s.flushes
        + (List.range calls.length).countP fun j => s.fitsAll (calls.take (j + 1)) := by
  induction calls using List.reverseRecOn with
  | nil => rfl
  | append_singleton calls c ih =>
    have hwhole : (calls ++ [c]).take (calls.length + 1) = calls ++ [c] :=
      List.take_of_length_le (by simp)
    have hearlier : ∀ j ∈ List.range calls.length,
        s.fitsAll ((calls ++ [c]).take (j + 1)) = true ↔ s.fitsAll (calls.take (j + 1)) = true := by
      intro j hj
      rw [List.take_append_of_le_length (List.mem_range.mp hj)]
    rw [flushes_after_concat, ih, List.length_append, List.length_singleton, List.range_succ,
      List.countP_append, List.countP_congr hearlier, List.countP_singleton, hwhole, Nat.add_assoc]

/-! ## The results of a row of calls -/

section Results

variable {s : Stream} {before : List Call} {c : Call}

/-- A call fails for lack of room when the texts up to its own do not fit. -/
theorem result_eq_closed_iff :
    s.result before c = .error .closed ↔ s.fitsAll (before ++ [c]) = false := by
  rw [result_eq]
  cases s.fitsAll (before ++ [c]) with
  | true =>
    rw [if_pos rfl]
    split <;> simp
  | false => simp

/-- A call fails because of its flush when its text has found room and its flush is the one
that fails. -/
theorem result_eq_flushFailed_iff :
    s.result before c = .error .flushFailed
      ↔ s.fitsAll (before ++ [c]) = true
        ∧ s.failingFlush = some ((s.after before).flushes + 1) := by
  rw [result_eq]
  cases s.fitsAll (before ++ [c]) with
  | true =>
    rw [if_pos rfl]
    by_cases hfails : s.failingFlush = some ((s.after before).flushes + 1)
    · simp [hfails]
    · simp [hfails]
  | false => simp

/-- A call that does not fail returns its answer. -/
theorem result_eq_ok_iff {answer : Option Outcome} :
    s.result before c = .ok answer
      ↔ (s.fitsAll (before ++ [c]) = true
        ∧ s.failingFlush ≠ some ((s.after before).flushes + 1)) ∧ answer = c.answer := by
  rw [result_eq]
  cases s.fitsAll (before ++ [c]) with
  | true =>
    rw [if_pos rfl]
    by_cases hfails : s.failingFlush = some ((s.after before).flushes + 1)
    · simp [hfails]
    · simp [hfails, eq_comm]
  | false => simp

/-- Behind a call that failed for lack of room every call fails like it, and none is flushed. -/
theorem result_eq_closed_of_closed (h : s.result before c = .error .closed) (between : List Call)
    (d : Call) :
    s.result (before ++ c :: between) d = .error .closed
      ∧ (s.after (before ++ c :: between ++ [d])).flushes = (s.after before).flushes := by
  have hfits := result_eq_closed_iff.mp h
  rw [result_eq_closed_iff, List.append_assoc, List.cons_append]
  refine ⟨?_, flushes_after_of_not_fitsAll hfits (between ++ [d])⟩
  rw [List.append_cons]
  exact not_fitsAll_append hfits (between ++ [d])

/-- The number of a failing flush is used up when it has failed. -/
theorem result_ne_flushFailed_of_flushFailed (h : s.result before c = .error .flushFailed)
    (between : List Call) (d : Call) :
    s.result (before ++ c :: between) d ≠ .error .flushFailed := by
  intro hd
  obtain ⟨hfits, hfirst⟩ := result_eq_flushFailed_iff.mp h
  obtain ⟨-, hsecond⟩ := result_eq_flushFailed_iff.mp hd
  have hflushed := s.flushes_after_concat before c
  have hlater := s.flushes_after_le (before ++ [c]) between
  rw [← List.append_cons] at hlater
  rw [hfits, if_pos rfl] at hflushed
  rw [hfirst] at hsecond
  have hsame := Option.some.inj hsecond
  omega

/-- A call whose flush fails leaves its whole text, behind the whole texts of the calls before
it. -/
theorem written_after_of_flushFailed (h : s.result before c = .error .flushFailed) :
    (s.after (before ++ [c])).written = s.written ++ (before.flatMap Call.text ++ c.text) := by
  obtain ⟨hfits, -⟩ := result_eq_flushFailed_iff.mp h
  obtain ⟨flushes, hafter⟩ := s.exists_after_eq (before ++ [c])
  rw [fitsAll, Call.textLength_eq] at hfits
  rw [hafter, ← List.flatMap_singleton Call.text c, ← List.flatMap_append]
  exact written_taken_of_fits hfits

end Results

/-- A dispatch fails with the failure that the stream meets while the text is written and
flushed. -/
theorem runOn_dispatch_eq_error_iff (policy : DecodePolicy) (payload : List UInt8)
    (sender : IpAddress) (t : Stream) (e : StreamError) :
    ((dispatch policy payload sender).runOn t).1 = .error e
      ↔ ((do write (Call.dispatch policy payload sender).text; flush : Output Unit).runOn t).1
        = .error e := by
  have hshow : (do write (Call.dispatch policy payload sender).text; flush : Output Unit)
      = (examine policy payload sender).1.show := by
    rw [Entry.show_eq, Call.text, Call.entry_dispatch]
    rfl
  rw [hshow, runOn_dispatch]
  cases ((examine policy payload sender).1.show.runOn t).1 with
  | error e' => simp [Except.map]
  | ok _ => simp [Except.map]

/-- **Results and flushes of a row of calls**, on a stream with or without a limit, one of whose
flushes may fail, and whatever came of the calls before.

A call is one write of its full text, one flush behind it, and its answer. It flushes, once,
if the texts up to and with its own fit into the stream in all, and else not at all; it
succeeds if they fit and its flush, numbered among those of the whole row, is not the one
that fails. So there are as many flushes as there are beginnings of the row that fit. When a call
has found no room, every later call fails for lack of room and flushes nothing. At most one
call fails because of its flush, and the texts up to and with its own are on the stream, whole. A
dispatch that fails returns the failure of the stream, and no outcome. -/
theorem result_and_flushes (s : Stream) :
    (∀ c : Call, c.perform = (do write c.text; flush; return c.answer))
    ∧ (∀ (before : List Call) (c : Call),
      (s.after (before ++ [c])).flushes
        = (s.after before).flushes + (if s.fits (Call.textLength (before ++ [c])) then 1 else 0)
      ∧ ((∃ answer, s.result before c = .ok answer)
        ↔ s.fits (Call.textLength (before ++ [c])) = true
          ∧ s.failingFlush ≠ some ((s.after before).flushes + 1))
      ∧ (∀ answer, s.result before c = .ok answer → answer = c.answer)
      ∧ (s.result before c = .error .closed ↔ s.fits (Call.textLength (before ++ [c])) = false))
    ∧ (∀ calls : List Call,
      (s.after calls).flushes
        = s.flushes + (List.range calls.length).countP
            fun j => s.fits (Call.textLength (calls.take (j + 1))))
    ∧ (∀ (before between : List Call) (c d : Call), s.result before c = .error .closed →
      s.result (before ++ c :: between) d = .error .closed
      ∧ (s.after (before ++ c :: between ++ [d])).flushes = (s.after before).flushes)
    ∧ (∀ (before between : List Call) (c d : Call), s.result before c = .error .flushFailed →
      s.result (before ++ c :: between) d ≠ .error .flushFailed
      ∧ (s.after (before ++ [c])).written = s.written ++ (before.flatMap Call.text ++ c.text))
    ∧ ∀ (policy : DecodePolicy) (payload : List UInt8) (sender : IpAddress) (t : Stream)
      (e : StreamError),
      ((dispatch policy payload sender).runOn t).1 = .error e
        ↔ ((do write (Call.dispatch policy payload sender).text; flush : Output Unit).runOn t).1
          = .error e := by
  refine ⟨Call.perform_eq, fun before c => ⟨s.flushes_after_concat before c, ⟨?_, ?_⟩, ?_,
      result_eq_closed_iff⟩, s.flushes_after, fun before between c d h =>
      result_eq_closed_of_closed h between d, fun before between c d h =>
      ⟨result_ne_flushFailed_of_flushFailed h between d, written_after_of_flushFailed h⟩,
    runOn_dispatch_eq_error_iff⟩
  · rintro ⟨answer, h⟩
    exact (result_eq_ok_iff.mp h).1
  · intro h
    exact ⟨c.answer, result_eq_ok_iff.mpr ⟨h, rfl⟩⟩
  · intro answer h
    exact (result_eq_ok_iff.mp h).2

/-- A call that remarks on three bytes, with a text of 34 bytes. -/
def remark : Call := .ignored 3 (.v4 ⟨10, 0, 0, 3⟩)

/-- A stream with room for two such texts and not for three, whose second flush fails. -/
def narrow : Stream := { room := some 100, failingFlush := some 2 }

/-- The first remark succeeds with its answer, the second fails because of its flush and is there
all the same, and the third and the fourth find no room. -/
theorem result_and_flushes_of_narrow :
    (narrow.result [] remark = .ok none ∧ remark.answer = none)
      ∧ (narrow.result [remark] remark = .error .flushFailed
        ∧ (narrow.after [remark, remark]).written = remark.text ++ remark.text)
      ∧ narrow.result [remark, remark] remark = .error .closed
      ∧ narrow.result [remark, remark, remark] remark = .error .closed
      ∧ (narrow.after [remark, remark, remark, remark]).flushes = 2 := by
  obtain ⟨-, hcall, -, hclosed, hflush, -⟩ := narrow.result_and_flushes
  have hlength : remark.text.length = 34 := rfl
  have hfirst : narrow.result [] remark = .ok none := rfl
  have hsecond : narrow.result [remark] remark = .error .flushFailed := rfl
  have hthird : narrow.result [remark, remark] remark = .error .closed :=
    (hcall [remark, remark] remark).2.2.2.mpr rfl
  obtain ⟨-, hwritten⟩ := hflush [remark] [] remark remark hsecond
  obtain ⟨hfourth, hflushes⟩ := hclosed [remark, remark] [] remark remark hthird
  have hanswer : none = remark.answer := (hcall [] remark).2.2.1 none hfirst
  exact ⟨⟨hfirst, hanswer.symm⟩, ⟨hsecond, hwritten⟩, hthird, hfourth, hflushes⟩

end Stream

end PeerTelemetry
