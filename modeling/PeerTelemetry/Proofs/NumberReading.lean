import Mathlib.Data.List.Induction
import Mathlib.Tactic.IntervalCases
import PeerTelemetry.Proofs.ScannerReading
import PeerTelemetry.Toml.Number

/-!
# Numbers that are read

Integers and floating-point numbers are read as the numbers that they denote, and all of them are
read that fit into 64 bits (`reads_integer`, `integer_append`, `reads_float`, `float_append`).

What begins like a decimal integer may be the front of a floating-point number, so the latter is
tried first. An integer is not taken for one, because nothing follows its digits that would go on
like one (`float_eq_none`); that is what `EndsToken` and `EndsNumber` are for. Nor is a decimal
number taken for one in another base, because the mark behind its zero would have to follow it.
-/

namespace PeerTelemetry.Toml

open Scanner

/-! ## Digits -/

theorem hexValue?_of_isDigit {c : Char} (h : c.isDigit = true) :
    hexValue? c = some (c.toNat - '0'.toNat) := if_pos h

theorem toNat_sub_lt_of_isDigit {c : Char} (h : c.isDigit = true) : c.toNat - '0'.toNat < 10 := by
  simp only [Char.isDigit, Bool.and_eq_true, decide_eq_true_eq, UInt32.le_iff_toNat_le] at h
  have hnine : c.toNat ≤ '9'.toNat := h.2
  have hnine' : '9'.toNat = '0'.toNat + 9 := rfl
  omega

theorem toNat_le_toNat_of_le {c d : Char} (h : c ≤ d) : c.toNat ≤ d.toNat :=
  UInt32.le_iff_toNat_le.mp h

/-- A character between two others is one of those whose numbers are. -/
theorem mem_of_le_of_le {low high c : Char} {marks : List Char} (hlow : low ≤ c) (hhigh : c ≤ high)
    (hmarks : ∀ n, low.toNat ≤ n → n ≤ high.toNat → Char.ofNat n ∈ marks) : c ∈ marks := by
  rw [← Char.ofNat_toNat c]
  exact hmarks _ (toNat_le_toNat_of_le hlow) (toNat_le_toNat_of_le hhigh)

theorem hexValue?_eq_none {c : Char} (h : c ∉ smallDigits ++ capitalDigits) :
    hexValue? c = none := by
  unfold hexValue?
  rw [if_neg, if_neg, if_neg]
  · rintro ⟨hlow, hhigh⟩
    refine h (mem_of_le_of_le hlow hhigh fun n (hlow : 65 ≤ n) (hhigh : n ≤ 70) => ?_)
    interval_cases n <;> decide
  · rintro ⟨hlow, hhigh⟩
    refine h (mem_of_le_of_le hlow hhigh fun n (hlow : 97 ≤ n) (hhigh : n ≤ 102) => ?_)
    interval_cases n <;> decide
  · intro hdigit
    simp only [Char.isDigit, Bool.and_eq_true, decide_eq_true_eq] at hdigit
    refine h (mem_of_le_of_le hdigit.1 hdigit.2 fun n (hlow : 48 ≤ n) (hhigh : n ≤ 57) => ?_)
    interval_cases n <;> decide

/-- **The place of a digit among the sixteen is its value.** -/
theorem digitValue?_eq_hexValue? (c : Char) : digitValue? c = hexValue? c := by
  have hsmall' : smallDigits.map digitValue? = smallDigits.map hexValue? := by decide
  have hcapital' : capitalDigits.map digitValue? = capitalDigits.map hexValue? := by decide
  by_cases hsmall : c ∈ smallDigits
  · exact List.map_inj_left.mp hsmall' c hsmall
  by_cases hcapital : c ∈ capitalDigits
  · exact List.map_inj_left.mp hcapital' c hcapital
  have hnone : hexValue? c = none :=
    hexValue?_eq_none fun hmem => (List.mem_append.mp hmem).elim hsmall hcapital
  rw [hnone, digitValue?, List.idxOf?_eq_none_iff.mpr hsmall, List.idxOf?_eq_none_iff.mpr hcapital]
  rfl

theorem digit_iff_hexValue? {base : ℕ} {c : Char} :
    Digit base c ↔ ∃ n < base, hexValue? c = some n := by
  unfold Digit
  rw [digitValue?_eq_hexValue?]

/-- **The digits below ten** are the decimal ones, and the sixteen are the hexadecimal ones. -/
theorem hexValue?_cases {c : Char} {n : ℕ} (h : hexValue? c = some n) :
    c.isDigit = true ∧ n < 10 ∨ c.isDigit = false ∧ 10 ≤ n ∧ n < 16 := by
  unfold hexValue? at h
  split at h
  case isTrue hdigit =>
    obtain rfl := Option.some.inj h
    exact Or.inl ⟨hdigit, toNat_sub_lt_of_isDigit hdigit⟩
  case isFalse hdigit =>
    have hdigit := Bool.eq_false_iff.mpr hdigit
    split at h
    case isTrue hletter =>
      obtain rfl := Option.some.inj h
      have hlast := toNat_le_toNat_of_le hletter.2
      have hf : 'f'.toNat = 'a'.toNat + 5 := rfl
      exact Or.inr ⟨hdigit, by omega, by omega⟩
    case isFalse =>
      split at h
      case isTrue hletter =>
        obtain rfl := Option.some.inj h
        have hlast := toNat_le_toNat_of_le hletter.2
        have hf : 'F'.toNat = 'A'.toNat + 5 := rfl
        exact Or.inr ⟨hdigit, by omega, by omega⟩
      case isFalse => cases h

/-- The digits of a base of no more than ten are the first of the decimal ones. -/
theorem digit_iff {base : ℕ} (hbase : base ≤ 10) {c : Char} :
    Digit base c ↔ c.isDigit = true ∧ c.toNat - '0'.toNat < base := by
  rw [digit_iff_hexValue?]
  constructor
  · rintro ⟨n, hn, hvalue⟩
    rcases hexValue?_cases hvalue with ⟨hdigit, -⟩ | ⟨-, hlow, -⟩
    · rw [hexValue?_of_isDigit hdigit] at hvalue
      obtain rfl := Option.some.inj hvalue
      exact ⟨hdigit, hn⟩
    · exact absurd hn (Nat.not_lt.mpr (hbase.trans hlow))
  · exact fun h => ⟨_, h.2, hexValue?_of_isDigit h.1⟩

theorem digit_ten_iff {c : Char} : Digit 10 c ↔ c.isDigit = true :=
  (digit_iff le_rfl).trans (and_iff_left_of_imp toNat_sub_lt_of_isDigit)

theorem digit_sixteen_iff {c : Char} : Digit 16 c ↔ isHexDigit c = true := by
  rw [digit_iff_hexValue?, isHexDigit, Option.isSome_iff_exists]
  constructor
  · rintro ⟨n, -, hvalue⟩
    exact ⟨n, hvalue⟩
  · rintro ⟨n, hvalue⟩
    exact ⟨n, by rcases hexValue?_cases hvalue with ⟨-, h⟩ | ⟨-, -, h⟩ <;> omega, hvalue⟩

theorem isDigit_iff_toNat {c : Char} : c.isDigit = true ↔ 48 ≤ c.toNat ∧ c.toNat ≤ 57 := by
  simp only [Char.isDigit, Bool.and_eq_true, decide_eq_true_eq, UInt32.le_iff_toNat_le]
  exact Iff.rfl

theorem digit_eight_iff {c : Char} : Digit 8 c ↔ '0' ≤ c ∧ c ≤ '7' := by
  have hle : '0' ≤ c ∧ c ≤ '7' ↔ 48 ≤ c.toNat ∧ c.toNat ≤ 55 :=
    and_congr UInt32.le_iff_toNat_le UInt32.le_iff_toNat_le
  have hzero : '0'.toNat = 48 := rfl
  rw [digit_iff (by simp), isDigit_iff_toNat, hle]
  omega

theorem digit_two_iff {c : Char} : Digit 2 c ↔ c = '0' ∨ c = '1' := by
  have heq : c = '0' ∨ c = '1' ↔ c.toNat = 48 ∨ c.toNat = 49 :=
    or_congr Char.toNat_inj.symm Char.toNat_inj.symm
  have hzero : '0'.toNat = 48 := rfl
  rw [digit_iff (by simp), isDigit_iff_toNat, heq]
  omega

theorem foldl_eq_numeral (base : ℕ) (digits : List Char) :
    digits.foldl (fun n c => base * n + (hexValue? c).getD 0) 0 = numeral base digits := by
  induction digits using List.reverseRecOn with
  | nil => rfl
  | append_singleton digits c ih =>
    rw [List.foldl_append, ih]
    unfold numeral
    rw [List.reverse_append, List.reverse_singleton, List.singleton_append, List.map_cons,
      Nat.ofDigits_cons, digitValue?_eq_hexValue?, Nat.add_comm]
    rfl

theorem ofDecimal_eq_numeral {digits : List Char} (h : Digits digits) :
    ofDecimal digits = numeral 10 digits := by
  have hfold : ∀ n, Nat.ofDigitChars 10 digits n
      = digits.foldl (fun n c => 10 * n + (hexValue? c).getD 0) n := by
    induction digits with
    | nil => exact fun _ => rfl
    | cons c digits ih =>
      intro n
      rw [Nat.ofDigitChars_cons, ih fun d hd => h d (List.mem_cons_of_mem c hd), List.foldl_cons,
        hexValue?_of_isDigit (h c List.mem_cons_self)]
      rfl
  exact (hfold 0).trans (foldl_eq_numeral 10 digits)

theorem DigitRow.digits {w digits : List Char} (h : DigitRow 10 w digits) : Digits digits := by
  induction h with
  | last hc => exact List.forall_mem_singleton.mpr (digit_ten_iff.mp hc)
  | next hc _ ih => exact List.forall_mem_cons.mpr ⟨digit_ten_iff.mp hc, ih⟩
  | underscore hc _ ih => exact List.forall_mem_cons.mpr ⟨digit_ten_iff.mp hc, ih⟩

/-- What may follow digits: none, and no underscore either. -/
def EndsDigits (p : Char → Bool) (s : List Char) : Prop := ∀ c ∈ s.head?, p c = false ∧ c ≠ '_'

theorem moreDigits_of_endsDigits {p : Char → Bool} {s : List Char} (hs : EndsDigits p s) :
    moreDigits p s = ([], s) := by
  unfold moreDigits
  split
  · rfl
  · exact absurd rfl (hs '_' rfl).2
  · rename_i c s _
    rw [if_neg (by rw [(hs c rfl).1]; decide)]

section DigitRun

variable {base : ℕ} {p : Char → Bool} (hp : ∀ c, p c = true ↔ Digit base c)
include hp

theorem digitRow_of_moreDigits (s : List Char) :
    ∃ w, s = w ++ (moreDigits p s).2
      ∧ ∀ c, Digit base c → DigitRow base (c :: w) (c :: (moreDigits p s).1) := by
  fun_induction moreDigits p s with
  | case1 => exact ⟨[], rfl, fun _ hc => .last hc⟩
  | case2 c s hc digits rest hmore ih =>
    obtain ⟨w, hs, hrow⟩ := ih
    rw [hmore] at hs hrow
    refine ⟨'_' :: c :: w, by rw [hs]; rfl, fun d hd => ?_⟩
    exact .underscore hd (hrow c ((hp c).mp hc))
  | case3 c s hc => exact ⟨[], rfl, fun _ hd => .last hd⟩
  | case4 c s _ hc digits rest hmore ih =>
    obtain ⟨w, hs, hrow⟩ := ih
    rw [hmore] at hs hrow
    exact ⟨c :: w, by rw [hs]; rfl, fun d hd => .next hd (hrow c ((hp c).mp hc))⟩
  | case5 c s _ hc => exact ⟨[], rfl, fun _ hd => .last hd⟩

theorem reads_digitRun : (digitRun p).Reads (DigitRow base) := by
  refine (reads_charWhere p).bind ?_
  rintro _ c ⟨rfl, hc⟩ s digits rest h
  cases h
  obtain ⟨w, hs, hrow⟩ := digitRow_of_moreDigits hp s
  exact ⟨w, hs, hrow c ((hp c).mp hc)⟩

theorem moreDigits_cons {c : Char} (hc : Digit base c) (s : List Char) :
    moreDigits p (c :: s) = (c :: (moreDigits p s).1, (moreDigits p s).2) := by
  rw [moreDigits, if_pos ((hp c).mpr hc)]
  rintro d s' rfl -
  obtain ⟨n, -, hvalue⟩ := hc
  exact absurd hvalue (by decide +revert)

theorem exists_moreDigits {w digits : List Char} (h : DigitRow base w digits) {s : List Char}
    (hs : EndsDigits p s) : ∃ c w' digits', w = c :: w' ∧ digits = c :: digits' ∧ Digit base c
      ∧ moreDigits p (w' ++ s) = (digits', s) := by
  induction h with
  | last hc => exact ⟨_, [], [], rfl, rfl, hc, moreDigits_of_endsDigits hs⟩
  | next hc _ ih =>
    obtain ⟨d, w', digits', rfl, rfl, hd, hmore⟩ := ih
    refine ⟨_, _, _, rfl, rfl, hc, ?_⟩
    rw [List.cons_append, moreDigits_cons hp hd, hmore]
  | underscore hc _ ih =>
    obtain ⟨d, w', digits', rfl, rfl, hd, hmore⟩ := ih
    refine ⟨_, _, _, rfl, rfl, hc, ?_⟩
    rw [List.cons_append, List.cons_append, moreDigits, if_pos ((hp d).mpr hd), hmore]

theorem digitRun_append {w digits : List Char} (h : DigitRow base w digits) {s : List Char}
    (hs : EndsDigits p s) : digitRun p (w ++ s) = some (digits, s) := by
  obtain ⟨c, w', digits', rfl, rfl, hc, hmore⟩ := exists_moreDigits hp h hs
  unfold digitRun
  rw [List.cons_append, bind_of_eq_some (charWhere_cons ((hp c).mpr hc) _)]
  dsimp only
  rw [hmore]

end DigitRun

/-- The first character of digits is a digit. -/
theorem DigitRow.head {base : ℕ} {w digits : List Char} (h : DigitRow base w digits) :
    ∃ c w', w = c :: w' ∧ Digit base c := by
  cases h with
  | last hc | next hc | underscore hc => exact ⟨_, _, rfl, hc⟩

theorem isDigit_iff_digit (c : Char) : c.isDigit = true ↔ Digit 10 c := digit_ten_iff.symm

/-! ## Integers -/

theorem reads_sign : sign.Reads SignText := by
  intro s negative rest h
  obtain ⟨w, negative', rest', hread, hsign, rfl⟩ := FloatLiteral.exists_signText s
  unfold sign at h
  rw [hread] at h
  cases h
  exact ⟨w, rfl, hsign⟩

theorem sign_append {w s : List Char} {negative : Bool} (h : SignText w negative)
    (hs : ¬FloatLiteral.BeginsWithSign s) : sign (w ++ s) = some (negative, s) := by
  unfold sign
  rw [FloatLiteral.readSign_append h hs]

theorem WholeText.head {w digits : List Char} (h : WholeText w digits) :
    ∃ c w', w = c :: w' ∧ c.isDigit = true := by
  cases h with
  | zero => exact ⟨'0', [], rfl, rfl⟩
  | digits _ hrow =>
    obtain ⟨c, w', hw, hc⟩ := hrow.head
    exact ⟨c, w', hw, digit_ten_iff.mp hc⟩

theorem digits_of_wholeText {w digits : List Char} (h : WholeText w digits) : Digits digits := by
  cases h with
  | zero => decide
  | digits _ hrow => exact hrow.digits

theorem reads_wholeDigits : wholeDigits.Reads WholeText := by
  intro s digits rest h
  unfold wholeDigits at h
  split at h
  case h_1 =>
    cases h
    exact ⟨['0'], rfl, .zero⟩
  case h_2 hzero =>
    obtain ⟨w, rfl, hrow⟩ := reads_digitRun isDigit_iff_digit _ _ _ h
    obtain ⟨c, w', rfl, -⟩ := hrow.head
    refine ⟨c :: w', rfl, .digits ?_ hrow⟩
    rintro rfl
    exact hzero _ rfl

theorem wholeDigits_append {w digits : List Char} (h : WholeText w digits) {s : List Char}
    (hs : EndsDigits Char.isDigit s) : wholeDigits (w ++ s) = some (digits, s) := by
  cases h with
  | zero => rfl
  | digits hzero hrow =>
    have hread := digitRun_append isDigit_iff_digit hrow hs
    unfold wholeDigits
    split
    case h_1 heq => exact absurd (List.cons.inj heq).1 hzero
    case h_2 => exact hread

theorem reads_boundedInteger (n : ℤ) : (boundedInteger n).Reads fun w v =>
    w = [] ∧ v = .integer n ∧ -0x8000000000000000 ≤ n ∧ n < 0x8000000000000000 := by
  intro s v rest h
  unfold boundedInteger at h
  split at h
  case isTrue hbound =>
    cases h
    exact ⟨[], rfl, rfl, rfl, hbound⟩
  case isFalse => cases h

theorem boundedInteger_eq {n : ℤ} (hlow : -0x8000000000000000 ≤ n)
    (hhigh : n < 0x8000000000000000) (s : List Char) :
    boundedInteger n s = some (.integer n, s) :=
  if_pos ⟨hlow, hhigh⟩

/-- What an integer that is read is the text of. -/
def IntegerValue (w : List Char) (v : Value) : Prop :=
  ∃ n, v = .integer n ∧ IntegerText w n ∧ -0x8000000000000000 ≤ n ∧ n < 0x8000000000000000

/-- **A marker of a base**, and how the digits of the base are told. -/
structure Marks (marker : String) (mark : Char) (base : ℕ) (p : Char → Bool) : Prop where
  toList_eq : marker.toList = ['0', mark]
  digit_iff : ∀ c, p c = true ↔ Digit base c
  mem : (mark, base) ∈ [('x', 16), ('o', 8), ('b', 2)]
  /-- None of what may follow a number is a digit. -/
  ends : ∀ c ∈ [' ', '\t', '\n', '\r', '#', ',', ']', '}'], p c = false

theorem marks_hexadecimal : Marks "0x" 'x' 16 isHexDigit :=
  ⟨by simp, fun _ => digit_sixteen_iff.symm, by simp, by simp [isHexDigit, hexValue?]⟩

theorem marks_octal : Marks "0o" 'o' 8 fun c => '0' ≤ c ∧ c ≤ '7' :=
  ⟨by simp, fun _ => decide_eq_true_iff.trans digit_eight_iff.symm, by simp, by simp⟩

theorem marks_binary : Marks "0b" 'b' 2 fun c => c = '0' ∨ c = '1' :=
  ⟨by simp, fun _ => decide_eq_true_iff.trans digit_two_iff.symm, by simp, by simp⟩

/-- What may follow a value without brackets: a blank, a comment, the end of a line or of the text,
or what separates values. -/
def EndsToken (s : List Char) : Prop :=
  ∀ c ∈ s.head?, c ∈ [' ', '\t', '\n', '\r', '#', ',', ']', '}']

theorem EndsToken.ne {s : List Char} (h : EndsToken s) {d : Char}
    (hd : d ∉ [' ', '\t', '\n', '\r', '#', ',', ']', '}']) : ∀ c ∈ s.head?, c ≠ d := by
  rintro c hc rfl
  exact hd (h c hc)

theorem EndsToken.endsDigits {s : List Char} (h : EndsToken s) {p : Char → Bool}
    (hp : ∀ c ∈ [' ', '\t', '\n', '\r', '#', ',', ']', '}'], p c = false) : EndsDigits p s :=
  fun c hc => ⟨hp c (h c hc), h.ne (by simp) c hc⟩

theorem reads_decimalInteger : decimalInteger.Reads IntegerValue := by
  refine reads_sign.bind fun sign negative hsign => ?_
  refine reads_wholeDigits.bind fun w digits hw => ?_
  refine (reads_boundedInteger _).mono ?_
  rintro _ _ ⟨rfl, rfl, hbound⟩
  refine ⟨_, rfl, ?_, hbound⟩
  rw [List.append_nil, ofDecimal_eq_numeral (digits_of_wholeText hw)]
  exact .decimal hsign hw

theorem decimalInteger_append {sign w digits : List Char} {negative : Bool}
    (hsign : SignText sign negative) (hw : WholeText w digits)
    (hlow : -0x8000000000000000 ≤ signed negative (numeral 10 digits))
    (hhigh : signed negative (numeral 10 digits) < 0x8000000000000000) {s : List Char}
    (hs : EndsToken s) :
    decimalInteger (sign ++ (w ++ s))
      = some (.integer (signed negative (numeral 10 digits)), s) := by
  obtain ⟨c, w', hhead, hc⟩ := hw.head
  have hbegins : ¬FloatLiteral.BeginsWithSign (w ++ s) := by
    rw [hhead, List.cons_append]
    exact FloatLiteral.not_beginsWithSign_of_isDigit hc _
  unfold decimalInteger
  rw [bind_of_eq_some (sign_append hsign hbegins),
    bind_of_eq_some (wholeDigits_append hw (hs.endsDigits (by simp))),
    ofDecimal_eq_numeral (digits_of_wholeText hw)]
  exact boundedInteger_eq hlow hhigh s

section Marks

variable {marker : String} {mark : Char} {base : ℕ} {p : Char → Bool}

theorem Marks.reads (h : Marks marker mark base p) :
    (prefixedInteger marker base p).Reads IntegerValue := by
  refine (reads_exactly marker).bind ?_
  rintro _ _ rfl
  refine (reads_digitRun h.digit_iff).bind fun w digits hrow => ?_
  refine (reads_boundedInteger _).mono ?_
  rintro _ _ ⟨rfl, rfl, hbound⟩
  refine ⟨_, rfl, ?_, hbound⟩
  rw [foldl_eq_numeral, h.toList_eq, List.append_nil]
  exact .marked h.mem hrow

theorem Marks.append (h : Marks marker mark base p) {w digits : List Char}
    (hrow : DigitRow base w digits) (hlow : -0x8000000000000000 ≤ (numeral base digits : ℤ))
    (hhigh : (numeral base digits : ℤ) < 0x8000000000000000) {s : List Char} (hs : EndsToken s) :
    prefixedInteger marker base p ('0' :: mark :: (w ++ s))
      = some (.integer (numeral base digits), s) := by
  have hexactly : exactly marker ('0' :: mark :: (w ++ s)) = some ((), w ++ s) := by
    have happend := exactly_append marker (w ++ s)
    rwa [h.toList_eq] at happend
  unfold prefixedInteger
  rw [bind_of_eq_some hexactly,
    bind_of_eq_some (digitRun_append h.digit_iff hrow (hs.endsDigits h.ends)), foldl_eq_numeral]
  exact boundedInteger_eq hlow hhigh s

theorem Marks.eq_none (h : Marks marker mark base p) {s : List Char}
    (hs : ∀ s', s ≠ '0' :: mark :: s') : prefixedInteger marker base p s = none := by
  refine bind_of_eq_none (exactly_eq_none fun s' => ?_)
  rw [h.toList_eq]
  exact hs s'

theorem Marks.eq_none_of_ne (h : Marks marker mark base p) {d : Char} (hd : d ≠ mark)
    (s : List Char) : prefixedInteger marker base p ('0' :: d :: s) = none :=
  h.eq_none fun _ heq => hd (List.cons.inj (List.cons.inj heq).2).1

end Marks

theorem reads_integer : integer.Reads IntegerValue :=
  marks_hexadecimal.reads.orElse (marks_octal.reads.orElse
    (marks_binary.reads.orElse reads_decimalInteger))

/-- A decimal number does not begin like a marked one. -/
theorem ne_marked {sign w digits : List Char} {negative : Bool} (hsign : SignText sign negative)
    (hw : WholeText w digits) {s : List Char} {mark : Char} (hs : ∀ c ∈ s.head?, c ≠ mark)
    (s' : List Char) : sign ++ (w ++ s) ≠ '0' :: mark :: s' := by
  intro heq
  cases hsign with
  | plus | minus => cases (List.cons.inj heq).1
  | none =>
    cases hw with
    | zero =>
      have heq : s = mark :: s' := (List.cons.inj heq).2
      exact hs mark (by rw [heq]; rfl) rfl
    | digits hzero => exact hzero (List.cons.inj heq).1

theorem integer_append {w : List Char} {n : ℤ} (h : IntegerText w n)
    (hlow : -0x8000000000000000 ≤ n) (hhigh : n < 0x8000000000000000) {s : List Char}
    (hs : EndsToken s) : integer (w ++ s) = some (.integer n, s) := by
  unfold integer
  cases h with
  | decimal hsign hw =>
    rw [List.append_assoc,
      orElse_of_eq_none (marks_hexadecimal.eq_none (ne_marked hsign hw (hs.ne (by simp)))),
      orElse_of_eq_none (marks_octal.eq_none (ne_marked hsign hw (hs.ne (by simp)))),
      orElse_of_eq_none (marks_binary.eq_none (ne_marked hsign hw (hs.ne (by simp))))]
    exact decimalInteger_append hsign hw hlow hhigh hs
  | @marked mark base w digits hmark hrow =>
    simp only [List.mem_cons, Prod.mk.injEq, List.not_mem_nil, or_false] at hmark
    rw [List.cons_append, List.cons_append]
    rcases hmark with ⟨rfl, rfl⟩ | ⟨rfl, rfl⟩ | ⟨rfl, rfl⟩
    · exact orElse_of_eq_some (marks_hexadecimal.append hrow hlow hhigh hs)
    · rw [orElse_of_eq_none (marks_hexadecimal.eq_none_of_ne (by simp) _)]
      exact orElse_of_eq_some (marks_octal.append hrow hlow hhigh hs)
    · rw [orElse_of_eq_none (marks_hexadecimal.eq_none_of_ne (by simp) _),
        orElse_of_eq_none (marks_octal.eq_none_of_ne (by simp) _)]
      exact orElse_of_eq_some (marks_binary.append hrow hlow hhigh hs)

/-! ## Floating-point numbers -/

theorem reads_exponent : exponent.Reads Exponent := by
  have hmark : (char 'e' <|> char 'E').Reads fun w _ => w = ['e'] ∨ w = ['E'] :=
    ((reads_char 'e').mono fun _ _ => Or.inl).orElse ((reads_char 'E').mono fun _ _ => Or.inr)
  refine hmark.bind fun mark _ hmark => ?_
  refine reads_sign.bind fun sign negative hsign => ?_
  refine (reads_digitRun isDigit_iff_digit).bind fun w digits hrow => reads_pure ?_
  rw [List.append_nil, ofDecimal_eq_numeral hrow.digits]
  rcases hmark with rfl | rfl
  · rw [List.singleton_append]
    exact .marked (Or.inl rfl) hsign hrow
  · rw [List.singleton_append]
    exact .marked (Or.inr rfl) hsign hrow

/-- What may follow a decimal number: nothing that could belong to it. -/
def EndsNumber (s : List Char) : Prop :=
  ∀ c ∈ s.head?, c.isDigit = false ∧ c ∉ ['_', '.', 'e', 'E']

theorem EndsNumber.endsDigits {s : List Char} (h : EndsNumber s) : EndsDigits Char.isDigit s :=
  fun c hc => ⟨(h c hc).1, by rintro rfl; exact absurd (h _ hc).2 (by simp)⟩

theorem EndsNumber.ne {s : List Char} (h : EndsNumber s) {d : Char}
    (hd : d ∈ ['_', '.', 'e', 'E']) : ∀ c ∈ s.head?, c ≠ d := by
  rintro c hc rfl
  exact (h c hc).2 hd

theorem EndsToken.endsNumber {s : List Char} (h : EndsToken s) : EndsNumber s := fun c hc => by
  have hall : ∀ c ∈ [' ', '\t', '\n', '\r', '#', ',', ']', '}'],
      c.isDigit = false ∧ c ∉ ['_', '.', 'e', 'E'] := by simp
  exact hall c (h c hc)

theorem exponent_append {w : List Char} {e : ℤ} (h : Exponent w e) {s : List Char}
    (hs : EndsNumber s) : exponent (w ++ s) = some (e, s) := by
  cases h with
  | @marked mark sign w digits negative hmark hsign hrow =>
    obtain ⟨c, w', hhead, hc⟩ := hrow.head
    have hbegins : ¬FloatLiteral.BeginsWithSign (w ++ s) := by
      rw [hhead, List.cons_append]
      exact FloatLiteral.not_beginsWithSign_of_isDigit (digit_ten_iff.mp hc) _
    have hmarked : (char 'e' <|> char 'E') (mark :: (sign ++ (w ++ s)))
        = some ((), sign ++ (w ++ s)) := by
      rcases hmark with rfl | rfl
      · exact orElse_of_eq_some (char_cons 'e' _)
      · exact (orElse_of_eq_none (char_eq_none 'e' (by simp))).trans (char_cons 'E' _)
    unfold exponent
    rw [List.cons_append, List.append_assoc, bind_of_eq_some hmarked,
      bind_of_eq_some (sign_append hsign hbegins),
      bind_of_eq_some (digitRun_append isDigit_iff_digit hrow hs.endsDigits),
      ofDecimal_eq_numeral hrow.digits]
    rfl

theorem exponent_eq_none {s : List Char} (h : ∀ c ∈ s.head?, c ≠ 'e' ∧ c ≠ 'E') :
    exponent s = none :=
  bind_of_eq_none ((orElse_of_eq_none (char_eq_none 'e' fun c hc => (h c hc).1)).trans
    (char_eq_none 'E' fun c hc => (h c hc).2))

theorem reads_fraction :
    fraction.Reads fun w digits => ∃ w', w = '.' :: w' ∧ DigitRow 10 w' digits := by
  refine (reads_char '.').bind ?_
  rintro _ _ rfl
  exact (reads_digitRun isDigit_iff_digit).mono fun w digits hrow => ⟨w, rfl, hrow⟩

theorem reads_fractionAndExponent :
    fractionAndExponent.Reads fun w found => NumberTail w found.1 found.2 := by
  refine Reads.orElse (reads_exponent.bind fun w e he => reads_pure ?_)
    (reads_fraction.bind fun w digits hw => reads_exponent.attempt.bind fun w' e he =>
      reads_pure ?_)
  · rw [List.append_nil]
    exact .exponent he
  · obtain ⟨w, rfl, hrow⟩ := hw
    rw [List.append_nil]
    rcases he with ⟨e, rfl, he⟩ | ⟨rfl, rfl⟩
    · exact .both hrow he
    · rw [List.append_nil]
      exact .decimals hrow

theorem fraction_append {w digits : List Char} (h : DigitRow 10 w digits) {s : List Char}
    (hs : EndsDigits Char.isDigit s) : fraction ('.' :: (w ++ s)) = some (digits, s) := by
  unfold fraction
  rw [bind_of_eq_some (char_cons '.' _)]
  exact digitRun_append isDigit_iff_digit h hs

theorem NumberTail.head {w decimals : List Char} {e : ℤ} (h : NumberTail w decimals e) :
    ∃ c w', w = c :: w' ∧ c ∈ ['.', 'e', 'E'] := by
  cases h with
  | decimals | both => exact ⟨'.', _, rfl, by simp⟩
  | exponent he =>
    cases he with
    | marked hmark =>
      refine ⟨_, _, rfl, ?_⟩
      rcases hmark with rfl | rfl <;> simp

theorem fractionAndExponent_append {w decimals : List Char} {e : ℤ} (h : NumberTail w decimals e)
    {s : List Char} (hs : EndsNumber s) :
    fractionAndExponent (w ++ s) = some ((decimals, e), s) := by
  unfold fractionAndExponent
  cases h with
  | exponent he =>
    refine orElse_of_eq_some ?_
    rw [bind_of_eq_some (exponent_append he hs)]
    rfl
  | decimals hrow =>
    have hnone : exponent s = none :=
      exponent_eq_none fun c hc => ⟨hs.ne (by simp) c hc, hs.ne (by simp) c hc⟩
    rw [List.cons_append,
      orElse_of_eq_none (bind_of_eq_none (exponent_eq_none (by simp))),
      bind_of_eq_some (fraction_append hrow hs.endsDigits),
      bind_of_eq_some (attempt_of_eq_none hnone)]
    rfl
  | @both w w' digits e hrow he =>
    have hdigits : EndsDigits Char.isDigit (w' ++ s) := by
      cases he with
      | marked hmark =>
        intro c hc
        obtain rfl := Option.some.inj hc
        rcases hmark with rfl | rfl <;> simp
    rw [List.cons_append, List.append_assoc,
      orElse_of_eq_none (bind_of_eq_none (exponent_eq_none (by simp))),
      bind_of_eq_some (fraction_append hrow hdigits),
      bind_of_eq_some (attempt_of_eq_some (exponent_append he hs))]
    rfl

theorem fractionAndExponent_eq_none {s : List Char}
    (h : ∀ c ∈ s.head?, c ∉ ['.', 'e', 'E']) : fractionAndExponent s = none := by
  refine eq_none_of_reads reads_fractionAndExponent ?_
  rintro w found rest rfl htail
  obtain ⟨c, w', rfl, hc⟩ := htail.head
  exact h c rfl hc

/-- **The literals that are taken**: a number has to be smaller than infinity, which is no
restriction on the size of a negative one. -/
def TakesLiteral : FloatLiteral → Prop
  | .finite negative digits e =>
    (doubleBits (.finite negative digits e)).toNat ≠ Format.double.infinity
  | .infinity _ | .nan _ => True

/-- What a floating-point number that is read is the text of. -/
def FloatValue (w : List Char) (v : Value) : Prop :=
  ∃ literal, v = .float (UInt64.ofNat (literal.pattern Format.double)) ∧ LiteralText w literal
    ∧ TakesLiteral literal

theorem reads_namedFloat :
    namedFloat.Reads fun w literal => LiteralText w literal ∧ TakesLiteral literal := by
  refine reads_sign.bind fun sign negative hsign => Reads.orElse ?_ ?_
  · refine (reads_exactly "inf").bind ?_
    rintro _ _ rfl
    exact reads_pure ⟨.infinity hsign, trivial⟩
  · refine (reads_exactly "nan").bind ?_
    rintro _ _ rfl
    exact reads_pure ⟨.nan hsign, trivial⟩

theorem reads_float : float.Reads FloatValue := by
  refine Reads.orElse ?_ ?_
  · refine reads_sign.bind fun sign negative hsign => ?_
    refine reads_wholeDigits.bind fun w digits hw => ?_
    refine reads_fractionAndExponent.bind fun tail found htail => ?_
    obtain ⟨decimals, e⟩ := found
    dsimp only
    split
    case isTrue => exact reads_failure
    case isFalse htaken =>
      refine reads_pure ⟨_, rfl, ?_, htaken⟩
      rw [List.append_nil]
      exact .finite hsign hw htail
  · refine reads_namedFloat.bind fun w literal hliteral => reads_pure ?_
    rw [List.append_nil]
    exact ⟨literal, rfl, hliteral⟩

theorem namedFloat_append {sign word : List Char} {negative : Bool} {literal : FloatLiteral}
    (hsign : SignText sign negative)
    (hword : word = ['i', 'n', 'f'] ∧ literal = .infinity negative
      ∨ word = ['n', 'a', 'n'] ∧ literal = .nan negative) (s : List Char) :
    namedFloat (sign ++ (word ++ s)) = some (literal, s) := by
  have hinf : exactly "inf" (['i', 'n', 'f'] ++ s) = some ((), s) := exactly_append "inf" s
  have hnan : exactly "nan" (['n', 'a', 'n'] ++ s) = some ((), s) := exactly_append "nan" s
  unfold namedFloat
  rcases hword with ⟨rfl, rfl⟩ | ⟨rfl, rfl⟩
  · rw [bind_of_eq_some (sign_append hsign (by rintro ⟨c, ⟨⟩, h⟩; revert h; decide))]
    refine orElse_of_eq_some ?_
    rw [bind_of_eq_some hinf]
    rfl
  · rw [bind_of_eq_some (sign_append hsign (by rintro ⟨c, ⟨⟩, h⟩; revert h; decide)),
      orElse_of_eq_none (bind_of_eq_none (exactly_eq_none fun s' heq => ?_)),
      bind_of_eq_some hnan]
    · rfl
    · cases (List.cons.inj heq).1

/-- Digits have no name. -/
theorem namedFloat_eq_none {sign : List Char} {negative : Bool} (hsign : SignText sign negative)
    {c : Char} (hc : c.isDigit = true) (s : List Char) : namedFloat (sign ++ c :: s) = none := by
  unfold namedFloat
  rw [bind_of_eq_some (sign_append hsign (FloatLiteral.not_beginsWithSign_of_isDigit hc s)),
    orElse_of_eq_none (bind_of_eq_none (exactly_eq_none fun s' heq => ?_)),
    bind_of_eq_none (exactly_eq_none fun s' heq => ?_)]
  · rw [(List.cons.inj heq).1] at hc
    cases hc
  · rw [(List.cons.inj heq).1] at hc
    cases hc

/-- A name has no digits. -/
theorem wholeDigits_eq_none {c : Char} (hc : c.isDigit = false) (s : List Char) :
    wholeDigits (c :: s) = none := by
  refine eq_none_of_reads reads_wholeDigits ?_
  rintro w digits rest heq hw
  obtain ⟨d, w', rfl, hd⟩ := hw.head
  rw [(List.cons.inj heq).1, hd] at hc
  cases hc

theorem float_append {w : List Char} {literal : FloatLiteral} (h : LiteralText w literal)
    (htaken : TakesLiteral literal) {s : List Char} (hs : EndsNumber s) :
    float (w ++ s) = some (.float (UInt64.ofNat (literal.pattern Format.double)), s) := by
  unfold float
  cases h with
  | @finite sign w tail digits decimals negative e hsign hw htail =>
    obtain ⟨c, w', hhead, hc⟩ := hw.head
    obtain ⟨d, tail', htailHead, hd⟩ := htail.head
    have hbegins : ¬FloatLiteral.BeginsWithSign (w ++ (tail ++ s)) := by
      rw [hhead, List.cons_append]
      exact FloatLiteral.not_beginsWithSign_of_isDigit hc _
    have hdigits : EndsDigits Char.isDigit (tail ++ s) := by
      rw [htailHead]
      intro c hc
      obtain rfl := Option.some.inj hc
      have hall : ∀ c ∈ ['.', 'e', 'E'], c.isDigit = false ∧ c ≠ '_' := by simp
      exact hall _ hd
    refine orElse_of_eq_some ?_
    rw [List.append_assoc, List.append_assoc, bind_of_eq_some (sign_append hsign hbegins),
      bind_of_eq_some (wholeDigits_append hw hdigits),
      bind_of_eq_some (fractionAndExponent_append htail hs)]
    dsimp only
    rw [if_neg htaken]
    rfl
  | infinity hsign =>
    have hnamed := namedFloat_append hsign (Or.inl ⟨rfl, rfl⟩) s
    rw [List.append_assoc, orElse_of_eq_none, bind_of_eq_some hnamed]
    · rfl
    · rw [bind_of_eq_some (sign_append hsign (by rintro ⟨c, ⟨⟩, h⟩; revert h; decide))]
      exact bind_of_eq_none (wholeDigits_eq_none (by simp) _)
  | nan hsign =>
    have hnamed := namedFloat_append hsign (Or.inr ⟨rfl, rfl⟩) s
    rw [List.append_assoc, orElse_of_eq_none, bind_of_eq_some hnamed]
    · rfl
    · rw [bind_of_eq_some (sign_append hsign (by rintro ⟨c, ⟨⟩, h⟩; revert h; decide))]
      exact bind_of_eq_none (wholeDigits_eq_none (by simp) _)

/-- **An integer is no floating-point number**: nothing follows its digits that would make it
one. -/
theorem float_eq_none {w : List Char} {n : ℤ} (h : IntegerText w n) {s : List Char}
    (hs : EndsToken s) : float (w ++ s) = none := by
  unfold float
  cases h with
  | @decimal sign w digits negative hsign hw =>
    obtain ⟨c, w', rfl, hc⟩ := hw.head
    have hbegins : ¬FloatLiteral.BeginsWithSign (c :: w' ++ s) :=
      FloatLiteral.not_beginsWithSign_of_isDigit hc _
    have htail : fractionAndExponent s = none :=
      fractionAndExponent_eq_none fun d hd => by
        have hall : ∀ d ∈ [' ', '\t', '\n', '\r', '#', ',', ']', '}'], d ∉ ['.', 'e', 'E'] := by
          simp
        exact hall d (hs d hd)
    rw [List.append_assoc, orElse_of_eq_none]
    · exact bind_of_eq_none (namedFloat_eq_none hsign hc _)
    · rw [bind_of_eq_some (sign_append hsign hbegins),
        bind_of_eq_some (wholeDigits_append hw (hs.endsDigits (by simp)))]
      exact bind_of_eq_none htail
  | @marked mark base w digits hmark hrow =>
    have hmark : mark ∉ ['.', 'e', 'E'] := by
      simp only [List.mem_cons, Prod.mk.injEq, List.not_mem_nil, or_false] at hmark
      rcases hmark with ⟨rfl, -⟩ | ⟨rfl, -⟩ | ⟨rfl, -⟩ <;> simp
    have htail : fractionAndExponent (mark :: (w ++ s)) = none :=
      fractionAndExponent_eq_none fun d hd => by
        obtain rfl := Option.some.inj hd
        exact hmark
    have hsign : sign ('0' :: mark :: (w ++ s)) = some (false, '0' :: mark :: (w ++ s)) := rfl
    have hwhole : wholeDigits ('0' :: mark :: (w ++ s)) = some (['0'], mark :: (w ++ s)) := rfl
    rw [List.cons_append, List.cons_append, orElse_of_eq_none]
    · exact bind_of_eq_none (namedFloat_eq_none .none (by simp) _)
    · rw [bind_of_eq_some hsign, bind_of_eq_some hwhole]
      exact bind_of_eq_none htail

end PeerTelemetry.Toml
