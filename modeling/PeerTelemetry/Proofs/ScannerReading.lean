import PeerTelemetry.Proofs.DocumentGrammar
import PeerTelemetry.Toml.Scanner

/-!
# What scanners read

A scanner and a relation of the grammar fit together in two ways.

Whatever the scanner takes off the front of a text is a phrase (`Scanner.Reads`). That is put
together as scanners are: there is a lemma for phrases that follow each other, one for
alternatives, and one for what is attempted.

And every phrase is taken off the front of a text that goes on as it may. For this there is no
general notion, because each kind of phrase has its own way of going on: blanks do not go on with a
blank, a number not with a digit. These are the lemmas in `_append`, here and in the modules that
follow.

## Filler

What stands between the items of an array is skipped up to the first character that it cannot
hold, even within a comment, so that what is skipped need not be filler. But then nothing can be
read behind it (`Unreadable`), and whatever the grammar has behind filler is not found there
(`Scanner.Reads.filler_bind`).
-/

namespace PeerTelemetry.Toml

namespace Scanner

variable {α β : Type} {x y : Scanner α} {f : α → Scanner β} {s s' : List Char} {a : α}

/-! ## How scanners go on -/

theorem bind_of_eq_some (h : x s = some (a, s')) : (x >>= f) s = f a s' := by
  show (x s).bind _ = _
  rw [h]
  rfl

theorem bind_of_eq_none (h : x s = none) : (x >>= f) s = none := by
  show (x s).bind _ = _
  rw [h]
  rfl

theorem exists_of_bind_eq_some {b : β} (h : (x >>= f) s = some (b, s')) :
    ∃ a t, x s = some (a, t) ∧ f a t = some (b, s') := by
  obtain ⟨⟨a, t⟩, hx, hf⟩ := Option.bind_eq_some_iff.mp h
  exact ⟨a, t, hx, hf⟩

theorem orElse_of_eq_some (h : x s = some (a, s')) : (x <|> y) s = some (a, s') := by
  show (x s <|> y s) = _
  rw [h]
  rfl

theorem orElse_of_eq_none (h : x s = none) : (x <|> y) s = y s := by
  show (x s <|> y s) = _
  rw [h]
  rfl

theorem attempt_of_eq_some (h : x s = some (a, s')) : attempt x s = some (some a, s') := by
  unfold attempt
  rw [h]

theorem attempt_of_eq_none (h : x s = none) : attempt x s = some (none, s) := by
  unfold attempt
  rw [h]

theorem char_cons (c : Char) (s : List Char) : char c (c :: s) = some ((), s) := if_pos rfl

theorem char_eq_none (c : Char) (h : ∀ d ∈ s.head?, d ≠ c) : char c s = none := by
  cases s with
  | nil => rfl
  | cons d s => exact if_neg (h d rfl)

theorem exactly_append (text : String) (s : List Char) :
    exactly text (text.toList ++ s) = some ((), s) := by
  have hdrop : ∀ expected : List Char, dropPrefix? expected (expected ++ s) = some s := by
    intro expected
    induction expected with
    | nil => rfl
    | cons c expected ih => exact (if_pos rfl).trans ih
  unfold exactly
  rw [hdrop]
  rfl

/-! ## What scanners read -/

/-- **A scanner reads phrases of a kind**: whatever it takes off the front of a text is one, and
what it finds is what the phrase stands for. -/
def Reads (x : Scanner α) (P : List Char → α → Prop) : Prop :=
  ∀ s a rest, x s = some (a, rest) → ∃ w, s = w ++ rest ∧ P w a

variable {P P' : List Char → α → Prop} {Q : List Char → β → Prop}

theorem Reads.mono (h : x.Reads P) (hP : ∀ w a, P w a → P' w a) : x.Reads P' := by
  intro s a rest hs
  obtain ⟨w, hw, hwa⟩ := h s a rest hs
  exact ⟨w, hw, hP w a hwa⟩

theorem reads_pure (h : P [] a) : (pure a : Scanner α).Reads P := by
  rintro s a' rest ⟨⟩
  exact ⟨[], rfl, h⟩

theorem reads_failure : (failure : Scanner α).Reads P := fun _ _ _ h => nomatch h

/-- **Phrases follow each other.** -/
theorem Reads.bind (hx : x.Reads P)
    (hf : ∀ w a, P w a → (f a).Reads fun w' b => Q (w ++ w') b) : (x >>= f).Reads Q := by
  intro s b rest h
  obtain ⟨a, rest', hscan, hrest⟩ := exists_of_bind_eq_some h
  obtain ⟨w, rfl, hw⟩ := hx s a rest' hscan
  obtain ⟨w', rfl, hw'⟩ := hf w a hw rest' b rest hrest
  exact ⟨w ++ w', (List.append_assoc w w' rest).symm, hw'⟩

theorem Reads.orElse (hx : x.Reads P) (hy : y.Reads P) : (x <|> y).Reads P := by
  intro s a rest h
  cases hscan : x s with
  | some found =>
    obtain ⟨a', rest'⟩ := found
    rw [orElse_of_eq_some hscan] at h
    cases h
    exact hx s a rest hscan
  | none =>
    rw [orElse_of_eq_none hscan] at h
    exact hy s a rest h

/-- What is attempted is read, or nothing is. -/
theorem Reads.attempt (hx : x.Reads P) :
    (attempt x).Reads fun w found => (∃ a, found = some a ∧ P w a) ∨ found = none ∧ w = [] := by
  intro s found rest h
  cases hscan : x s with
  | some result =>
    obtain ⟨a, rest'⟩ := result
    rw [attempt_of_eq_some hscan] at h
    cases h
    obtain ⟨w, hw, hwa⟩ := hx s a rest hscan
    exact ⟨w, hw, Or.inl ⟨a, rfl, hwa⟩⟩
  | none =>
    rw [attempt_of_eq_none hscan] at h
    cases h
    exact ⟨[], rfl, Or.inr ⟨rfl, rfl⟩⟩

/-- A phrase that is not there does not go on. -/
theorem eq_none_of_reads (hx : x.Reads P) (h : ∀ w a rest, s = w ++ rest → ¬P w a) :
    x s = none := by
  cases hscan : x s with
  | none => rfl
  | some found =>
    obtain ⟨a, rest⟩ := found
    obtain ⟨w, hw, hwa⟩ := hx s a rest hscan
    exact absurd hwa (h w a rest hw)

theorem reads_char (c : Char) : (char c).Reads fun w _ => w = [c] := by
  intro s a rest h
  cases s with
  | nil => cases h
  | cons d s =>
    by_cases hd : d = c
    · rw [hd, char_cons] at h
      cases h
      exact ⟨[c], congrArg (· :: rest) hd, rfl⟩
    · cases (if_neg hd).symm.trans h

theorem reads_exactly (text : String) : (exactly text).Reads fun w _ => w = text.toList := by
  have hdrop : ∀ expected s rest : List Char, dropPrefix? expected s = some rest →
      s = expected ++ rest := by
    intro expected
    induction expected with
    | nil =>
      rintro s rest ⟨⟩
      rfl
    | cons c expected ih =>
      intro s rest h
      cases s with
      | nil => cases h
      | cons d s =>
        by_cases hd : c = d
        · rw [ih s rest ((if_pos hd).symm.trans h), hd]
          rfl
        · cases (if_neg hd).symm.trans h
  intro s a rest h
  obtain ⟨rest', hrest', heq⟩ := Option.map_eq_some_iff.mp h
  cases heq
  exact ⟨text.toList, hdrop _ _ _ hrest', rfl⟩

theorem exactly_eq_none {text : String} (h : ∀ s', s ≠ text.toList ++ s') :
    exactly text s = none := by
  refine eq_none_of_reads (reads_exactly text) ?_
  rintro _ _ rest hs rfl
  exact h rest hs

theorem reads_charWhere (p : Char → Bool) : (charWhere p).Reads fun w c => w = [c] ∧ p c := by
  intro s c rest h
  cases s with
  | nil => cases h
  | cons d s =>
    by_cases hd : p d = true
    · cases (if_pos hd).symm.trans h
      exact ⟨[c], rfl, rfl, hd⟩
    · cases (if_neg hd).symm.trans h

theorem charWhere_cons {p : Char → Bool} {c : Char} (h : p c = true) (s : List Char) :
    charWhere p (c :: s) = some (c, s) := if_pos h

theorem charWhere_eq_none {p : Char → Bool} (h : ∀ c ∈ s.head?, p c = false) :
    charWhere p s = none := by
  cases s with
  | nil => rfl
  | cons c s => exact if_neg (Bool.eq_false_iff.mp (h c rfl))

theorem reads_takenBy (hx : x.Reads P) :
    (takenBy x).Reads fun w found => found = w ∧ ∃ a, P w a := by
  intro s found rest h
  obtain ⟨⟨a, rest'⟩, hscan, heq⟩ := Option.map_eq_some_iff.mp h
  cases heq
  obtain ⟨w, rfl, hwa⟩ := hx s a rest hscan
  refine ⟨w, rfl, ?_, a, hwa⟩
  rw [List.length_append, Nat.add_sub_cancel]
  exact List.take_left' rfl

theorem takenBy_append {w : List Char} (h : x (w ++ s) = some (a, s)) :
    takenBy x (w ++ s) = some (w, s) := by
  unfold takenBy
  rw [h, Option.map_some]
  dsimp only
  rw [List.length_append, Nat.add_sub_cancel, List.take_left' rfl]

theorem reads_takeWhile (p : Char → Bool) :
    (takeWhile p).Reads fun w found => found = w ∧ ∀ c ∈ w, p c := by
  rintro s found rest ⟨⟩
  exact ⟨s.takeWhile p, List.takeWhile_append_dropWhile.symm, rfl, fun c => List.mem_takeWhile_imp⟩

theorem takeWhile_append {p : Char → Bool} {w : List Char} (hw : ∀ c ∈ w, p c = true)
    (hs : ∀ c ∈ s.head?, p c = false) : takeWhile p (w ++ s) = some (w, s) := by
  obtain ⟨htake, hdrop⟩ := takeWhile_append_of_head? hw hs
  unfold takeWhile
  rw [htake, hdrop]

theorem reads_takeWhile1 (p : Char → Bool) :
    (takeWhile1 p).Reads fun w found => found = w ∧ w ≠ [] ∧ ∀ c ∈ w, p c := by
  refine (reads_charWhere p).bind ?_
  rintro _ first ⟨rfl, hfirst⟩
  refine (reads_takeWhile p).bind ?_
  rintro w _ ⟨rfl, hw⟩
  exact reads_pure ⟨by rw [List.append_nil]; rfl, List.cons_ne_nil _ _, by
    simpa using ⟨hfirst, hw⟩⟩

theorem takeWhile1_append {p : Char → Bool} {w : List Char} (hne : w ≠ [])
    (hw : ∀ c ∈ w, p c = true) (hs : ∀ c ∈ s.head?, p c = false) :
    takeWhile1 p (w ++ s) = some (w, s) := by
  obtain ⟨c, w, rfl⟩ := List.exists_cons_of_ne_nil hne
  obtain ⟨hc, hw⟩ := List.forall_mem_cons.mp hw
  unfold takeWhile1
  rw [List.cons_append, bind_of_eq_some (charWhere_cons hc _),
    bind_of_eq_some (takeWhile_append hw hs)]
  rfl

end Scanner

open Scanner

/-! ## Characters -/

theorem isTextChar_iff {c : Char} : isTextChar c = true ↔ TextChar c := by
  simp [isTextChar, TextChar]

theorem isBlank_iff {c : Char} : isBlank c = true ↔ c = ' ' ∨ c = '\t' := by
  simp [isBlank]

theorem TextChar.ne_newline {c : Char} (h : TextChar c) : c ≠ '\n' ∧ c ≠ '\r' := by
  constructor <;> rintro rfl <;> exact absurd (isTextChar_iff.mpr h) (by decide)

theorem Newline.not_textChar {w : List Char} (h : Newline w) : ∀ c ∈ w, ¬TextChar c := by
  intro c hc htext
  cases h <;> simp only [List.mem_cons, List.not_mem_nil, or_false] at hc
  · exact htext.ne_newline.1 hc
  · exact hc.elim htext.ne_newline.2 htext.ne_newline.1

/-! ## Between the values -/

theorem Blanks.nil : Blanks [] := List.forall_mem_nil _

theorem Blanks.append {w w' : List Char} (h : Blanks w) (h' : Blanks w') : Blanks (w ++ w') :=
  fun c hc => (List.mem_append.mp hc).elim (h c) (h' c)

theorem reads_blanks : blanks.Reads fun w _ => Blanks w := by
  refine (reads_takeWhile isBlank).bind ?_
  rintro w _ ⟨-, hw⟩
  refine reads_pure fun c hc => isBlank_iff.mp (hw c ?_)
  rwa [List.append_nil] at hc

theorem blanks_append {w s : List Char} (hw : Blanks w)
    (hs : ∀ c ∈ s.head?, c ≠ ' ' ∧ c ≠ '\t') : blanks (w ++ s) = some ((), s) := by
  unfold blanks
  rw [bind_of_eq_some (takeWhile_append (fun c hc => isBlank_iff.mpr (hw c hc)) fun c hc => ?_)]
  · rfl
  · rw [Bool.eq_false_iff, ne_eq, isBlank_iff, not_or]
    exact hs c hc

theorem reads_newline : newline.Reads fun w _ => Newline w := by
  refine ((reads_char '\n').mono ?_).orElse ((reads_exactly "\r\n").mono ?_)
  · rintro _ _ rfl
    exact .lineFeed
  · rintro _ _ rfl
    exact .carriageReturn

theorem newline_append {w : List Char} (hw : Newline w) (s : List Char) :
    newline (w ++ s) = some ((), s) := by
  cases hw with
  | lineFeed => exact orElse_of_eq_some (char_cons '\n' s)
  | carriageReturn =>
    exact (orElse_of_eq_none (char_eq_none '\n' (by simp))).trans (exactly_append "\r\n" s)

theorem newline_eq_none {s : List Char} (h : ∀ c ∈ s.head?, c ≠ '\n' ∧ c ≠ '\r') :
    newline s = none := by
  refine eq_none_of_reads reads_newline fun w _ rest hs hw => ?_
  subst hs
  cases hw with
  | lineFeed => exact (h '\n' rfl).1 rfl
  | carriageReturn => exact (h '\r' rfl).2 rfl

theorem reads_comment : comment.Reads fun w _ => Comment w := by
  refine (reads_char '#').bind ?_
  rintro _ _ rfl
  refine (reads_takeWhile isTextChar).bind ?_
  rintro w _ ⟨-, hw⟩
  refine reads_pure ?_
  rw [List.append_nil]
  exact .marked fun c hc => isTextChar_iff.mp (hw c hc)

/-- A comment, if there is one. -/
theorem reads_attempt_comment : (attempt comment).Reads fun w _ => Comment w := by
  refine reads_comment.attempt.mono ?_
  rintro w _ (⟨_, -, hw⟩ | ⟨-, rfl⟩)
  · exact hw
  · exact .none

theorem comment_append {text s : List Char} (htext : ∀ c ∈ text, TextChar c)
    (hs : ∀ c ∈ s.head?, ¬TextChar c) : comment ('#' :: (text ++ s)) = some ((), s) := by
  unfold comment
  rw [bind_of_eq_some (char_cons '#' _),
    bind_of_eq_some (takeWhile_append (fun c hc => isTextChar_iff.mpr (htext c hc)) fun c hc => ?_)]
  · rfl
  · rw [Bool.eq_false_iff, ne_eq, isTextChar_iff]
    exact hs c hc

theorem attempt_comment_of_ne {s : List Char} (hs : ∀ c ∈ s.head?, c ≠ '#') :
    attempt comment s = some (none, s) :=
  attempt_of_eq_none (bind_of_eq_none (char_eq_none '#' hs))

theorem attempt_comment_append {w s : List Char} (hw : Comment w)
    (hs : ∀ c ∈ s.head?, ¬TextChar c) : ∃ found, attempt comment (w ++ s) = some (found, s) := by
  cases hw with
  | none =>
    refine ⟨none, attempt_comment_of_ne fun c hc => ?_⟩
    rintro rfl
    exact hs '#' hc (isTextChar_iff.mp (by decide))
  | marked htext => exact ⟨some (), attempt_of_eq_some (comment_append htext hs)⟩

/-! ## Filler -/

/-- **A text in front of which no phrase stands**: it is at its end, or goes on with a character
that no text holds, be it an end of a line. -/
def Unreadable (s : List Char) : Prop := ∀ c ∈ s.head?, ¬TextChar c

theorem Unreadable.char_eq_none {c : Char} {s : List Char} (h : Unreadable s)
    (hc : isTextChar c = true) : char c s = none := by
  refine Scanner.char_eq_none c fun d hd => ?_
  rintro rfl
  exact h d hd (isTextChar_iff.mp hc)

theorem Scanner.Reads.eq_none_of_unreadable {α : Type} {x : Scanner α}
    {P : List Char → α → Prop} (hx : x.Reads P)
    (hP : ∀ w a, P w a → ∃ c w', w = c :: w' ∧ TextChar c) {s : List Char} (h : Unreadable s) :
    x s = none := by
  refine eq_none_of_reads hx ?_
  rintro w a rest rfl hw
  obtain ⟨c, w', rfl, hc⟩ := hP w a hw
  exact h c rfl hc

/-- What is left of a text once the filler in front of it is skipped. -/
def SkipsFiller (s t : List Char) : Prop := (∃ w, s = w ++ t ∧ Filler w) ∨ Unreadable t

/-- What is left once the rest of a comment is skipped, and the filler behind its line. -/
def SkipsComment (s t : List Char) : Prop :=
  (∃ text newline w, s = text ++ (newline ++ (w ++ t)) ∧ (∀ c ∈ text, TextChar c)
    ∧ Newline newline ∧ Filler w) ∨ Unreadable t

theorem SkipsFiller.blank {c : Char} {s t : List Char} (hc : c = ' ' ∨ c = '\t')
    (h : SkipsFiller s t) : SkipsFiller (c :: s) t := by
  rcases h with ⟨w, rfl, hw⟩ | hdead
  · exact Or.inl ⟨c :: w, rfl, .blank hc hw⟩
  · exact Or.inr hdead

theorem SkipsFiller.newline {newline s t : List Char} (hnewline : Newline newline)
    (h : SkipsFiller s t) : SkipsFiller (newline ++ s) t := by
  rcases h with ⟨w, rfl, hw⟩ | hdead
  · exact Or.inl ⟨newline ++ w, (List.append_assoc _ _ _).symm, .line .none hnewline hw⟩
  · exact Or.inr hdead

theorem SkipsComment.newline {newline s t : List Char} (hnewline : Newline newline)
    (h : SkipsFiller s t) : SkipsComment (newline ++ s) t := by
  rcases h with ⟨w, rfl, hw⟩ | hdead
  · exact Or.inl ⟨[], newline, w, rfl, List.forall_mem_nil _, hnewline, hw⟩
  · exact Or.inr hdead

theorem SkipsComment.cons {c : Char} {s t : List Char} (hc : TextChar c) (h : SkipsComment s t) :
    SkipsComment (c :: s) t := by
  rcases h with ⟨text, newline, w, rfl, htext, hnewline, hw⟩ | hdead
  · exact Or.inl ⟨c :: text, newline, w, rfl, List.forall_mem_cons.mpr ⟨hc, htext⟩, hnewline, hw⟩
  · exact Or.inr hdead

theorem SkipsComment.marked {s t : List Char} (h : SkipsComment s t) :
    SkipsFiller ('#' :: s) t := by
  rcases h with ⟨text, newline, w, rfl, htext, hnewline, hw⟩ | hdead
  · refine Or.inl ⟨'#' :: text ++ (newline ++ w), ?_, .line (.marked htext) hnewline hw⟩
    simp only [List.cons_append, List.append_assoc]
  · exact Or.inr hdead

/-- **What is skipped is filler**, unless nothing can be read behind it. -/
theorem skipsFiller_skipFiller (s : List Char) : SkipsFiller s (skipFiller s) := by
  refine skipFiller.induct (fun s => SkipsFiller s (skipFiller s))
    (fun s => SkipsComment s (skipComment s)) ?_ ?_ ?_ ?_ ?_ ?_ ?_ ?_ ?_ ?_ ?_ s
  · exact fun s ih => ih.blank (Or.inl rfl)
  · exact fun s ih => ih.blank (Or.inr rfl)
  · exact fun s ih => ih.newline .lineFeed
  · exact fun s ih => ih.newline .carriageReturn
  · exact fun s ih => ih.marked
  · intro s h₁ h₂ h₃ h₄ h₅
    have hself : skipFiller s = s := by
      unfold skipFiller
      split <;> first | rfl | simp_all
    rw [hself]
    exact Or.inl ⟨[], rfl, .nil⟩
  · exact Or.inr fun c hc => nomatch hc
  · exact fun s ih => .newline .lineFeed ih
  · exact fun s ih => .newline .carriageReturn ih
  · intro c s h₁ h₂ hc ih
    have hskip : skipComment (c :: s) = skipComment s := by
      rw [skipComment, if_pos hc]
      exacts [h₁, h₂]
    rw [hskip]
    exact ih.cons (isTextChar_iff.mp hc)
  · intro c s h₁ h₂ hc
    have hself : skipComment (c :: s) = c :: s := by
      rw [skipComment, if_neg hc]
      exacts [h₁, h₂]
    rw [hself]
    refine Or.inr fun d hd => ?_
    obtain rfl := Option.some.inj hd
    exact fun htext => hc (isTextChar_iff.mpr htext)

/-- **Filler is read in front of what can be read.** -/
theorem Scanner.Reads.filler_bind {β : Type} {f : Unit → Scanner β} {Q : List Char → β → Prop}
    (hdead : ∀ s, Unreadable s → f () s = none)
    (hf : ∀ w, Filler w → (f ()).Reads fun w' b => Q (w ++ w') b) : (filler >>= f).Reads Q := by
  intro s b rest h
  have h : f () (skipFiller s) = some (b, rest) := h
  rcases skipsFiller_skipFiller s with ⟨w, hs, hw⟩ | hunreadable
  · obtain ⟨w', hrest, hw'⟩ := hf w hw _ _ _ h
    refine ⟨w ++ w', ?_, hw'⟩
    rw [List.append_assoc, ← hrest]
    exact hs
  · rw [hdead _ hunreadable] at h
    cases h

/-- The front of what cannot be filler. -/
def EndsFiller (s : List Char) : Prop := ∀ c ∈ s.head?, c ∉ [' ', '\t', '\n', '\r', '#']

theorem skipFiller_of_endsFiller {s : List Char} (h : EndsFiller s) : skipFiller s = s := by
  unfold skipFiller
  split <;> first | rfl | exact absurd (h _ rfl) (by simp)

theorem skipFiller_newline_append {newline : List Char} (h : Newline newline) (s : List Char) :
    skipFiller (newline ++ s) = skipFiller s := by
  cases h <;> rfl

theorem skipComment_append {text newline : List Char} (htext : ∀ c ∈ text, TextChar c)
    (hnewline : Newline newline) (s : List Char) :
    skipComment (text ++ (newline ++ s)) = skipFiller s := by
  induction text with
  | nil => cases hnewline <;> rfl
  | cons c text ih =>
    obtain ⟨hc, htext⟩ := List.forall_mem_cons.mp htext
    rw [List.cons_append, skipComment, if_pos (isTextChar_iff.mpr hc), ih htext]
    · exact fun h => hc.ne_newline.1 h
    · exact fun _ h _ => hc.ne_newline.2 h

theorem filler_append {w s : List Char} (hw : Filler w) (hs : EndsFiller s) :
    filler (w ++ s) = some ((), s) := by
  have hskip : skipFiller (w ++ s) = s := by
    induction hw with
    | nil => exact skipFiller_of_endsFiller hs
    | blank hc _ ih =>
      rcases hc with rfl | rfl <;> exact ih
    | line hcomment hnewline _ ih =>
      rw [List.append_assoc, List.append_assoc]
      cases hcomment with
      | none => exact (skipFiller_newline_append hnewline _).trans ih
      | marked htext => exact (skipComment_append htext hnewline _).trans ih
  unfold filler
  rw [hskip]

end PeerTelemetry.Toml
