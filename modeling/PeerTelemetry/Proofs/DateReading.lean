import PeerTelemetry.Proofs.NumberReading
import PeerTelemetry.Toml.Date

/-!
# Dates that are read

Dates and times are read as they stand (`reads_datetime`, `datetime_append`), and nothing else is:
what is read as one begins with digits and then a hyphen or a colon, and no number does.

A blank may stand between a date and its time, and so a date that ends in front of a blank may seem
to go on. It does if digits follow, and behind a value they cannot: that a value is followed by
blanks and then by one of a few characters (`EndsValue`) is asked here, where asking for the next
character would do everywhere else.
-/

namespace PeerTelemetry.Toml

open Scanner

/-! ## Numbers of so many digits -/

theorem reads_fixedDigits (count : ℕ) :
    (fixedDigits count).Reads fun w n => w.length = count ∧ Digits w ∧ n = numeral 10 w := by
  intro s n rest h
  unfold fixedDigits at h
  dsimp only at h
  split at h
  case isTrue hdigits =>
    cases h
    have hall : Digits (s.take count) := List.all_eq_true.mp hdigits.2
    exact ⟨s.take count, (List.take_append_drop count s).symm, hdigits.1, hall,
      ofDecimal_eq_numeral hall⟩
  case isFalse => cases h

theorem fixedDigits_append {count : ℕ} {w : List Char} (hlength : w.length = count)
    (hw : Digits w) (s : List Char) : fixedDigits count (w ++ s) = some (numeral 10 w, s) := by
  have htake : (w ++ s).take count = w := List.take_left' hlength
  have hdrop : (w ++ s).drop count = s := List.drop_left' hlength
  unfold fixedDigits
  dsimp only
  rw [htake, hdrop, if_pos ⟨hlength, List.all_eq_true.mpr hw⟩, ofDecimal_eq_numeral hw]

theorem FixedNumber.digits {count low high n : ℕ} {w : List Char}
    (h : FixedNumber count low high w n) : Digits w := fun c hc =>
  digit_ten_iff.mp (h.digit_of_mem c hc)

theorem reads_year : (fixedDigits 4).Reads (FixedNumber 4 0 9999) := by
  refine (reads_fixedDigits 4).mono ?_
  rintro w _ ⟨hlength, hw, rfl⟩
  refine ⟨hlength, fun c hc => digit_ten_iff.mpr (hw c hc), rfl, Nat.zero_le _, ?_⟩
  have hlt := hw.ofDecimal_lt
  rw [ofDecimal_eq_numeral hw, hlength] at hlt
  exact Nat.le_of_lt_succ hlt

theorem reads_twoDigits (low high : ℕ) : (twoDigits low high).Reads (FixedNumber 2 low high) := by
  refine (reads_fixedDigits 2).bind ?_
  rintro w n ⟨hlength, hw, rfl⟩
  split
  case isTrue hbound =>
    refine reads_pure ?_
    rw [List.append_nil]
    exact ⟨hlength, fun c hc => digit_ten_iff.mpr (hw c hc), rfl, hbound.1, hbound.2⟩
  case isFalse => exact reads_failure

theorem FixedNumber.fixedDigits_append {count low high n : ℕ} {w : List Char}
    (h : FixedNumber count low high w n) (s : List Char) :
    fixedDigits count (w ++ s) = some (n, s) := by
  rw [Toml.fixedDigits_append h.length_eq h.digits, h.numeral_eq]

theorem FixedNumber.twoDigits_append {low high n : ℕ} {w : List Char}
    (h : FixedNumber 2 low high w n) (s : List Char) :
    twoDigits low high (w ++ s) = some (n, s) := by
  unfold twoDigits
  rw [bind_of_eq_some (h.fixedDigits_append s), if_pos ⟨h.le, h.ge⟩]
  rfl

/-! ## Dates -/

theorem reads_fullDate : fullDate.Reads fun w _ => DateText w := by
  refine reads_year.bind fun y year hy => ?_
  refine (reads_char '-').bind ?_
  rintro _ _ rfl
  refine (reads_twoDigits 1 12).bind fun m month hm => ?_
  refine (reads_char '-').bind ?_
  rintro _ _ rfl
  refine (reads_twoDigits 1 _).bind fun d day hd => reads_pure ?_
  rw [List.append_nil, List.singleton_append, List.singleton_append]
  exact .date hy hm hd

theorem fullDate_append {w : List Char} (h : DateText w) (s : List Char) :
    fullDate (w ++ s) = some ((), s) := by
  cases h with
  | date hy hm hd =>
    unfold fullDate
    rw [List.append_assoc, bind_of_eq_some (hy.fixedDigits_append _), List.cons_append,
      bind_of_eq_some (char_cons '-' _), List.append_assoc,
      bind_of_eq_some (hm.twoDigits_append _), List.cons_append,
      bind_of_eq_some (char_cons '-' _), bind_of_eq_some (hd.twoDigits_append s)]
    rfl

/-! ## Times -/

theorem reads_secondFraction :
    (attempt (do
      char '.'
      takeWhile1 Char.isDigit)).Reads fun w _ => SecondFraction w := by
  refine (Reads.attempt (P := fun w _ => SecondFraction w) ?_).mono ?_
  · refine (reads_char '.').bind ?_
    rintro _ _ rfl
    refine (reads_takeWhile1 Char.isDigit).mono ?_
    rintro w _ ⟨-, hne, hw⟩
    obtain ⟨c, w, rfl⟩ := List.exists_cons_of_ne_nil hne
    exact .digits fun d hd => digit_ten_iff.mpr (hw d hd)
  · rintro w _ (⟨_, -, hw⟩ | ⟨-, rfl⟩)
    · exact hw
    · exact .none

theorem secondFraction_append {w : List Char} (h : SecondFraction w) {s : List Char}
    (hs : ∀ c ∈ s.head?, c.isDigit = false ∧ c ≠ '.') :
    ∃ found, attempt (do
      char '.'
      takeWhile1 Char.isDigit) (w ++ s) = some (found, s) := by
  cases h with
  | none =>
    exact ⟨none, attempt_of_eq_none (bind_of_eq_none (char_eq_none '.' fun c hc => (hs c hc).2))⟩
  | @digits c w hw =>
    refine ⟨some (c :: w), attempt_of_eq_some ?_⟩
    rw [List.cons_append, bind_of_eq_some (char_cons '.' _)]
    exact takeWhile1_append (List.cons_ne_nil c w) (fun d hd => digit_ten_iff.mp (hw d hd))
      fun d hd => (hs d hd).1

theorem reads_timeOfDay : timeOfDay.Reads fun w _ => TimeText w := by
  refine (reads_twoDigits 0 23).bind fun h hour hh => ?_
  refine (reads_char ':').bind ?_
  rintro _ _ rfl
  refine (reads_twoDigits 0 59).bind fun m minute hm => ?_
  refine (reads_char ':').bind ?_
  rintro _ _ rfl
  refine (reads_twoDigits 0 60).bind fun s second hs => ?_
  refine reads_secondFraction.bind fun f _ hf => reads_pure ?_
  rw [List.append_nil, List.singleton_append, List.singleton_append]
  exact .time hh hm hs hf

theorem timeOfDay_append {w : List Char} (h : TimeText w) {s : List Char}
    (hs : ∀ c ∈ s.head?, c.isDigit = false ∧ c ≠ '.') : timeOfDay (w ++ s) = some ((), s) := by
  cases h with
  | time hh hm hsecond hf =>
    obtain ⟨found, hfraction⟩ := secondFraction_append hf hs
    unfold timeOfDay
    rw [List.append_assoc, bind_of_eq_some (hh.twoDigits_append _), List.cons_append,
      bind_of_eq_some (char_cons ':' _), List.append_assoc,
      bind_of_eq_some (hm.twoDigits_append _), List.cons_append,
      bind_of_eq_some (char_cons ':' _), List.append_assoc,
      bind_of_eq_some (hsecond.twoDigits_append _), bind_of_eq_some hfraction]
    rfl

/-! ## Offsets -/

theorem reads_attempt_timeOffset : (attempt timeOffset).Reads fun w _ => OffsetText w := by
  refine (Reads.attempt (P := fun w _ => OffsetText w) (Reads.orElse ?_ ?_)).mono ?_
  · refine (reads_charWhere _).bind ?_
    rintro _ c ⟨rfl, hc⟩
    exact reads_pure (.universal (of_decide_eq_true hc))
  · refine (reads_charWhere _).bind ?_
    rintro _ c ⟨rfl, hc⟩
    refine (reads_twoDigits 0 23).bind fun h hour hh => ?_
    refine (reads_char ':').bind ?_
    rintro _ _ rfl
    refine (reads_twoDigits 0 59).bind fun m minute hm => reads_pure ?_
    rw [List.append_nil, List.singleton_append, List.singleton_append]
    exact .hours (of_decide_eq_true hc) hh hm
  · rintro w _ (⟨_, -, hw⟩ | ⟨-, rfl⟩)
    · exact hw
    · exact .none

theorem attempt_timeOffset_append {w : List Char} (h : OffsetText w) {s : List Char}
    (hs : EndsToken s) : ∃ found, attempt timeOffset (w ++ s) = some (found, s) := by
  unfold timeOffset
  cases h with
  | none =>
    refine ⟨none, attempt_of_eq_none ?_⟩
    rw [List.nil_append, orElse_of_eq_none (bind_of_eq_none (charWhere_eq_none fun c hc => ?_)),
      bind_of_eq_none (charWhere_eq_none fun c hc => ?_)]
    · rw [decide_eq_false_iff_not, not_or]
      exact ⟨hs.ne (by simp) c hc, hs.ne (by simp) c hc⟩
    · rw [decide_eq_false_iff_not, not_or]
      exact ⟨hs.ne (by simp) c hc, hs.ne (by simp) c hc⟩
  | universal hc =>
    refine ⟨some (), attempt_of_eq_some (orElse_of_eq_some ?_)⟩
    rw [List.singleton_append, bind_of_eq_some (charWhere_cons (decide_eq_true hc) s)]
    rfl
  | hours hsign hh hm =>
    refine ⟨some (), attempt_of_eq_some ?_⟩
    rw [List.cons_append, orElse_of_eq_none (bind_of_eq_none (charWhere_eq_none fun c hc => ?_)),
      bind_of_eq_some (charWhere_cons (decide_eq_true hsign) _), List.append_assoc,
      bind_of_eq_some (hh.twoDigits_append _), List.cons_append,
      bind_of_eq_some (char_cons ':' _), bind_of_eq_some (hm.twoDigits_append s)]
    · rfl
    · obtain rfl := Option.some.inj hc
      rcases hsign with rfl | rfl <;> simp

/-! ## Dates and times -/

/-- What stands behind a date, if anything does. -/
inductive BehindDate : List Char → Prop
  | none : BehindDate []
  | time {time offset : List Char} {mark : Char} : mark ∈ ['T', 't', ' '] → TimeText time →
    OffsetText offset → BehindDate (mark :: (time ++ offset))

theorem reads_attempt_timeBehindDate :
    (attempt timeBehindDate).Reads fun w _ => BehindDate w := by
  refine (Reads.attempt (P := fun w _ => BehindDate w) ?_).mono ?_
  · refine (reads_charWhere _).bind ?_
    rintro _ c ⟨rfl, hc⟩
    refine reads_timeOfDay.bind fun time _ htime => ?_
    refine reads_attempt_timeOffset.bind fun offset _ hoffset => reads_pure ?_
    rw [List.append_nil, List.singleton_append]
    exact .time (by simpa using of_decide_eq_true hc) htime hoffset
  · rintro w _ (⟨_, -, hw⟩ | ⟨-, rfl⟩)
    · exact hw
    · exact .none

theorem DateText.dateTimeText {w w' : List Char} (h : DateText w) (h' : BehindDate w') :
    DateTimeText (w ++ w') := by
  cases h' with
  | none =>
    rw [List.append_nil]
    exact .date h
  | time hmark htime hoffset => exact .both h hmark htime hoffset

theorem reads_datetime :
    datetime.Reads fun w v => v = .datetime (String.ofList w) ∧ DateTimeText w := by
  have hreads : ((do
      fullDate
      let _ ← attempt timeBehindDate) <|> timeOfDay).Reads fun w _ => DateTimeText w := by
    refine Reads.orElse ?_ (reads_timeOfDay.mono fun w _ h => .time h)
    refine reads_fullDate.bind fun w _ hw => ?_
    refine reads_attempt_timeBehindDate.bind fun w' _ hw' => reads_pure ?_
    rw [List.append_nil]
    exact hw.dateTimeText hw'
  refine (reads_takenBy hreads).bind ?_
  rintro w _ ⟨rfl, -, hw⟩
  refine reads_pure ?_
  rw [List.append_nil]
  exact ⟨rfl, hw⟩

/-- **What may follow a value**: blanks, and then what `EndsToken` allows besides. -/
def EndsValue (s : List Char) : Prop :=
  ∃ b t, s = b ++ t ∧ Blanks b ∧ ∀ c ∈ t.head?, c ∈ ['\n', '\r', '#', ',', ']', '}']

theorem EndsValue.endsToken {s : List Char} (h : EndsValue s) : EndsToken s := by
  obtain ⟨b, t, rfl, hb, ht⟩ := h
  intro c hc
  cases b with
  | nil =>
    have hall : ∀ c ∈ ['\n', '\r', '#', ',', ']', '}'],
        c ∈ [' ', '\t', '\n', '\r', '#', ',', ']', '}'] := by simp
    exact hall c (ht c hc)
  | cons d b =>
    obtain rfl := Option.some.inj hc
    rcases hb d List.mem_cons_self with rfl | rfl <;> simp

theorem EndsValue.tail {c : Char} {s : List Char} (h : EndsValue (c :: s)) (hc : c = ' ') :
    EndsToken s := by
  obtain ⟨b, t, heq, hb, ht⟩ := h
  cases b with
  | nil =>
    subst hc
    exact absurd (ht ' ' (by rw [← List.nil_append t, ← heq]; rfl)) (by simp)
  | cons d b =>
    obtain ⟨-, rfl⟩ := List.cons.inj heq
    exact EndsValue.endsToken ⟨b, t, rfl, fun e he => hb e (List.mem_cons_of_mem d he), ht⟩

/-- A time begins with a digit. -/
theorem timeOfDay_eq_none {s : List Char} (h : ∀ c ∈ s.head?, c.isDigit = false) :
    timeOfDay s = none := by
  refine bind_of_eq_none (eq_none_of_reads (reads_twoDigits 0 23) ?_)
  rintro w n rest rfl hw
  have hlength := hw.length_eq
  match w, hlength with
  | c :: _, _ =>
    have hc := hw.digits c List.mem_cons_self
    rw [h c rfl] at hc
    cases hc

/-- **Behind a date that ends there stands no time.** -/
theorem timeBehindDate_eq_none {s : List Char} (h : EndsValue s) : timeBehindDate s = none := by
  unfold timeBehindDate
  cases s with
  | nil => rfl
  | cons c s =>
    have hends := h.endsToken c rfl
    by_cases hc : c = ' '
    · have hnone : timeOfDay s = none :=
        timeOfDay_eq_none fun d hd => ((h.tail hc).endsNumber d hd).1
      have hmark : decide (c = 'T' ∨ c = 't' ∨ c = ' ') = true := by
        rw [hc]
        simp
      rw [bind_of_eq_some (charWhere_cons hmark s), bind_of_eq_none hnone]
    · refine bind_of_eq_none (charWhere_eq_none fun d hd => ?_)
      obtain rfl := Option.some.inj hd
      rw [decide_eq_false_iff_not]
      rintro (rfl | rfl | rfl)
      · exact absurd hends (by simp)
      · exact absurd hends (by simp)
      · exact hc rfl

theorem timeBehindDate_append {time offset : List Char} {mark : Char}
    (hmark : mark ∈ ['T', 't', ' ']) (htime : TimeText time) (hoffset : OffsetText offset)
    {s : List Char} (hs : EndsToken s) :
    timeBehindDate (mark :: (time ++ (offset ++ s))) = some ((), s) := by
  obtain ⟨found, hfound⟩ := attempt_timeOffset_append hoffset hs
  have hends : ∀ c ∈ (offset ++ s).head?, c.isDigit = false ∧ c ≠ '.' := by
    intro c hc
    cases hoffset with
    | none => exact ⟨(hs.endsNumber c hc).1, hs.ne (by simp) c hc⟩
    | universal hzone =>
      obtain rfl := Option.some.inj hc
      rcases hzone with rfl | rfl <;> simp
    | hours hsign =>
      obtain rfl := Option.some.inj hc
      rcases hsign with rfl | rfl <;> simp
  have hmark : decide (mark = 'T' ∨ mark = 't' ∨ mark = ' ') = true := by
    simpa using hmark
  unfold timeBehindDate
  rw [bind_of_eq_some (charWhere_cons hmark _), bind_of_eq_some (timeOfDay_append htime hends),
    bind_of_eq_some hfound]
  rfl

/-- A time is no date: its third character is a colon. -/
theorem fullDate_eq_none {w : List Char} (h : TimeText w) (s : List Char) :
    fullDate (w ++ s) = none := by
  cases h with
  | @time h m s' fraction hour minute second hh hm hs hf =>
    refine bind_of_eq_none (eq_none_of_reads reads_year ?_)
    rintro y year rest heq hy
    have hh := hh.length_eq
    have hylength := hy.length_eq
    match h, hh, y, hylength with
    | [a, b], _, [c, d, e, f], _ =>
      simp only [List.cons_append, List.nil_append, List.cons.injEq] at heq
      obtain ⟨-, -, rfl, -⟩ := heq
      exact absurd (hy.digits ':' (by simp)) (by simp)

theorem datetime_append {w : List Char} (h : DateTimeText w) {s : List Char} (hs : EndsValue s) :
    datetime (w ++ s) = some (.datetime (String.ofList w), s) := by
  have hscan : ((do
      fullDate
      let _ ← attempt timeBehindDate) <|> timeOfDay) (w ++ s) = some ((), s) := by
    cases h with
    | date hdate =>
      refine orElse_of_eq_some ?_
      rw [bind_of_eq_some (fullDate_append hdate s),
        bind_of_eq_some (attempt_of_eq_none (timeBehindDate_eq_none hs))]
      rfl
    | time htime =>
      rw [orElse_of_eq_none (bind_of_eq_none (fullDate_eq_none htime s))]
      refine timeOfDay_append htime fun c hc => ⟨(hs.endsToken.endsNumber c hc).1, ?_⟩
      exact hs.endsToken.ne (by simp) c hc
    | both hdate hmark htime hoffset =>
      refine orElse_of_eq_some ?_
      have hbehind := timeBehindDate_append hmark htime hoffset hs.endsToken
      rw [List.append_assoc, List.cons_append, List.append_assoc,
        bind_of_eq_some (fullDate_append hdate _), bind_of_eq_some (attempt_of_eq_some hbehind)]
      rfl
  unfold datetime
  rw [bind_of_eq_some (takenBy_append hscan)]
  rfl

/-! ## What is no date -/

/-- **What a date or a time begins with**: digits, and then a hyphen or a colon. -/
def BeginsLikeDate (s : List Char) : Prop :=
  ∃ c ∈ s.head?, c.isDigit = true ∧ ∃ d ∈ (s.dropWhile Char.isDigit).head?, d = '-' ∨ d = ':'

theorem beginsLikeDate_append {digits : List Char} (hne : digits ≠ []) (hdigits : Digits digits)
    {d : Char} (hd : d = '-' ∨ d = ':') (s : List Char) :
    BeginsLikeDate (digits ++ d :: s) := by
  have hnot : d.isDigit = false := by rcases hd with rfl | rfl <;> simp
  have hends : ∀ e ∈ (d :: s).head?, e.isDigit = false := by
    intro e he
    obtain rfl := Option.some.inj he
    exact hnot
  obtain ⟨-, hdrop⟩ := takeWhile_append_of_head? hdigits hends
  obtain ⟨c, digits, rfl⟩ := List.exists_cons_of_ne_nil hne
  exact ⟨c, rfl, hdigits c List.mem_cons_self, d, by rw [hdrop]; rfl, hd⟩

theorem FixedNumber.ne_nil {count low high n : ℕ} {w : List Char} (hcount : count ≠ 0)
    (h : FixedNumber count low high w n) : w ≠ [] := by
  rintro rfl
  exact hcount h.length_eq.symm

theorem DateText.beginsLikeDate {w : List Char} (h : DateText w) (s : List Char) :
    BeginsLikeDate (w ++ s) := by
  cases h with
  | date hy =>
    rw [List.append_assoc, List.cons_append]
    exact beginsLikeDate_append (hy.ne_nil (by simp)) hy.digits (Or.inl rfl) _

theorem TimeText.beginsLikeDate {w : List Char} (h : TimeText w) (s : List Char) :
    BeginsLikeDate (w ++ s) := by
  cases h with
  | time hh =>
    rw [List.append_assoc, List.cons_append]
    exact beginsLikeDate_append (hh.ne_nil (by simp)) hh.digits (Or.inr rfl) _

/-- **What does not begin like a date** is not read as one. -/
theorem datetime_eq_none {s : List Char} (h : ¬BeginsLikeDate s) : datetime s = none := by
  refine eq_none_of_reads reads_datetime ?_
  rintro w v rest rfl ⟨-, hw⟩
  cases hw with
  | date hdate => exact h (hdate.beginsLikeDate rest)
  | time htime => exact h (htime.beginsLikeDate rest)
  | both hdate =>
    rw [List.append_assoc] at h
    exact h (hdate.beginsLikeDate _)

theorem not_beginsLikeDate_cons {c : Char} (hc : c.isDigit = false) (s : List Char) :
    ¬BeginsLikeDate (c :: s) := by
  rintro ⟨d, hd, hdigit, -⟩
  obtain rfl := Option.some.inj hd
  rw [hc] at hdigit
  cases hdigit

/-- Behind the first digits of a row stands an underscore, or what follows the row. -/
theorem DigitRow.head?_dropWhile {w digits : List Char} (h : DigitRow 10 w digits) {s : List Char}
    (hs : ∀ c ∈ s.head?, c.isDigit = false ∧ c ≠ '-' ∧ c ≠ ':') :
    ∀ d ∈ ((w ++ s).dropWhile Char.isDigit).head?, d ≠ '-' ∧ d ≠ ':' := by
  have hcons : ∀ {c : Char}, Digit 10 c → ∀ s : List Char,
      (c :: s).dropWhile Char.isDigit = s.dropWhile Char.isDigit := fun hc s =>
    List.dropWhile_cons_of_pos (digit_ten_iff.mp hc)
  induction h with
  | last hc =>
    rw [List.singleton_append, hcons hc]
    obtain ⟨-, hdrop⟩ := takeWhile_append_of_head? (s := []) (List.forall_mem_nil _)
      fun c hc => (hs c hc).1
    rw [List.nil_append] at hdrop
    rw [hdrop]
    exact fun c hc => (hs c hc).2
  | next hc _ ih =>
    rw [List.cons_append, hcons hc]
    exact ih
  | underscore hc =>
    rw [List.cons_append, hcons hc]
    intro d hd
    obtain rfl := Option.some.inj hd
    simp

theorem WholeText.not_beginsLikeDate {w digits : List Char} (h : WholeText w digits)
    {s : List Char} (hs : ∀ c ∈ s.head?, c.isDigit = false ∧ c ≠ '-' ∧ c ≠ ':') :
    ¬BeginsLikeDate (w ++ s) := by
  have hrow : DigitRow 10 w digits := by
    cases h with
    | zero => exact .last (digit_ten_iff.mpr (by simp))
    | digits _ hrow => exact hrow
  rintro ⟨-, -, -, d, hd, hmark⟩
  obtain ⟨hhyphen, hcolon⟩ := hrow.head?_dropWhile hs d hd
  exact hmark.elim hhyphen hcolon

/-- A number with a sign is no date, and neither is one whose digits end it. -/
theorem not_beginsLikeDate_sign {sign s : List Char} {negative : Bool}
    (hsign : SignText sign negative) (hs : ¬BeginsLikeDate s) : ¬BeginsLikeDate (sign ++ s) := by
  cases hsign with
  | none => exact hs
  | plus => exact not_beginsLikeDate_cons (by simp) s
  | minus => exact not_beginsLikeDate_cons (by simp) s

theorem IntegerText.not_beginsLikeDate {w : List Char} {n : ℤ} (h : IntegerText w n)
    {s : List Char} (hs : EndsToken s) : ¬BeginsLikeDate (w ++ s) := by
  cases h with
  | decimal hsign hw =>
    rw [List.append_assoc]
    refine not_beginsLikeDate_sign hsign (hw.not_beginsLikeDate fun c hc => ?_)
    exact ⟨(hs.endsNumber c hc).1, hs.ne (by simp) c hc, hs.ne (by simp) c hc⟩
  | @marked mark base w digits hmark hrow =>
    have hmark : mark.isDigit = false ∧ mark ≠ '-' ∧ mark ≠ ':' := by
      simp only [List.mem_cons, Prod.mk.injEq, List.not_mem_nil, or_false] at hmark
      rcases hmark with ⟨rfl, -⟩ | ⟨rfl, -⟩ | ⟨rfl, -⟩ <;> simp
    refine WholeText.zero.not_beginsLikeDate (s := mark :: (w ++ s)) fun c hc => ?_
    obtain rfl := Option.some.inj hc
    exact hmark

theorem LiteralText.not_beginsLikeDate {w : List Char} {literal : FloatLiteral}
    (h : LiteralText w literal) (s : List Char) : ¬BeginsLikeDate (w ++ s) := by
  cases h with
  | finite hsign hw htail =>
    obtain ⟨c, w', rfl, hc⟩ := htail.head
    have hall : ∀ c ∈ ['.', 'e', 'E'], c.isDigit = false ∧ c ≠ '-' ∧ c ≠ ':' := by simp
    rw [List.append_assoc, List.append_assoc]
    refine not_beginsLikeDate_sign hsign (hw.not_beginsLikeDate fun d hd => ?_)
    obtain rfl := Option.some.inj hd
    exact hall c hc
  | infinity hsign | nan hsign =>
    rw [List.append_assoc]
    exact not_beginsLikeDate_sign hsign (not_beginsLikeDate_cons (by simp) _)

end PeerTelemetry.Toml
