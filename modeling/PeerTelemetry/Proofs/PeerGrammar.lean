import Mathlib.Algebra.Order.Field.Power
import PeerTelemetry.Proofs.NearestPattern

/-!
# The grammar of peer records

A record is typed as three fields with colons between them: two integers, and between them a
round-trip time that is a float literal or `n/a`. The reader tries the fields in an order of its
own, and stops at the first that is bad. **Every text is read in one of five ways**, and each of
them is a condition on the text alone (`PeerStat.Reading`): it has not three fields, one of the
three is the first that is to blame, or none is, and then the record has the numbers that the
fields denote.

An integer is as long as its digits are, and may be too large; a literal is never too large
or too small. What its digits denote is rounded once, and what is so large or so small that its
rounding is recognised from the exponent alone is rounded to the same number
(`FloatLiteral.isNearest_magnitude`).
-/

namespace PeerTelemetry

-- Powers of numbers are the core library's own, whatever algebra is loaded besides.
attribute [local instance (high)] instPowNat

/-! ## Integers -/

/-- **A 32-bit integer**, and what it denotes: an optional plus sign and digits, at least one, with
any number of zeros in front. -/
inductive WordText : List Char → ℕ → Prop
  | digits {sign digits : List Char} : sign = [] ∨ sign = ['+'] → Digits digits → digits ≠ [] →
    ofDecimal digits < 2 ^ 32 → WordText (sign ++ digits) (ofDecimal digits)

/-- What is read as digits is digits, within the bound. -/
theorem digits_of_readDigits {bound n m : ℕ} {beyond : IntegerError} {s : List Char}
    (hn : n ≤ bound) (h : readDigits bound beyond n s = .ok m) :
    Digits s ∧ Nat.ofDigitChars 10 s n = m ∧ m ≤ bound := by
  induction s generalizing n with
  | nil =>
    cases h
    exact ⟨List.forall_mem_nil _, rfl, hn⟩
  | cons c s ih =>
    rw [readDigits] at h
    split at h
    case isTrue => cases h
    case isFalse hdigit =>
      dsimp only at h
      split at h
      case isTrue => cases h
      case isFalse hnext =>
        obtain ⟨hs, hm, hle⟩ := ih (Nat.le_of_not_lt hnext) h
        exact ⟨List.forall_mem_cons.mpr ⟨eq_true_of_ne_false hdigit, hs⟩, hm, hle⟩

theorem readDigits_eq_ok_iff {bound n : ℕ} {beyond : IntegerError} {s : List Char} :
    readDigits bound beyond 0 s = .ok n ↔ Digits s ∧ ofDecimal s = n ∧ n ≤ bound := by
  refine ⟨digits_of_readDigits (Nat.zero_le bound), ?_⟩
  rintro ⟨hs, rfl, hle⟩
  exact readDigits_eq_ofDigitChars hs hle

/-- **What is read as a natural number** is digits, with a plus sign in front of them or without,
and nothing else is. -/
theorem readNat_eq_ok_iff {bound n : ℕ} {field : List Char} :
    readNat bound field = .ok n ↔ ∃ sign digits, (sign = [] ∨ sign = ['+'])
      ∧ field = sign ++ digits ∧ digits ≠ [] ∧ Digits digits ∧ ofDecimal digits = n
      ∧ n ≤ bound := by
  constructor
  · intro h
    unfold readNat at h
    split at h
    · cases h
    · cases h
    · rename_i digits hne
      exact ⟨['+'], digits, Or.inr rfl, rfl, fun heq => hne (heq ▸ rfl), readDigits_eq_ok_iff.mp h⟩
    · rename_i hne _ _
      exact ⟨[], field, Or.inl rfl, rfl, hne, readDigits_eq_ok_iff.mp h⟩
  · rintro ⟨sign, digits, hsign, rfl, hne, hdigits⟩
    obtain ⟨c, digits, rfl⟩ := List.exists_cons_of_ne_nil hne
    have hread : readDigits bound .tooLarge 0 (c :: digits) = .ok n :=
      readDigits_eq_ok_iff.mpr hdigits
    rcases hsign with rfl | rfl
    · have hplus : c ≠ '+' := by
        rintro rfl
        cases hdigits.1 '+' List.mem_cons_self
      exact (readNat_cons_of_ne_plus hplus).trans hread
    · exact hread

theorem readNat_word_eq_ok_iff {n : ℕ} {field : List Char} :
    readNat 4294967295 field = .ok n ↔ WordText field n := by
  rw [readNat_eq_ok_iff]
  constructor
  · rintro ⟨sign, digits, hsign, rfl, hne, hdigits, rfl, hle⟩
    exact .digits hsign hdigits hne (Nat.lt_succ_of_le hle)
  · rintro ⟨hsign, hdigits, hne, hlt⟩
    exact ⟨_, _, hsign, rfl, hne, hdigits, rfl, Nat.le_of_lt_succ hlt⟩

theorem WordText.lt {field : List Char} {n : ℕ} (h : WordText field n) : n < 2 ^ 32 := by
  cases h with
  | digits _ _ _ hlt => exact hlt

/-- A field denotes one number. -/
theorem WordText.unique {field : List Char} {n m : ℕ} (h : WordText field n)
    (h' : WordText field m) : m = n := by
  have hread := (readNat_word_eq_ok_iff.mpr h').symm.trans (readNat_word_eq_ok_iff.mpr h)
  exact Except.ok.inj hread

/-- **A 32-bit integer is read as what it denotes**, and anything else is blamed. -/
theorem readWord32_cases (blame : IntegerError → PeerTextError) (field : List Char) :
    (∃ word, readWord32 blame field = .ok word ∧ WordText field word.toNat)
      ∨ ∃ cause, readWord32 blame field = .error (blame cause) ∧ ∀ n, ¬WordText field n := by
  unfold readWord32
  cases hread : readNat 4294967295 field with
  | ok n =>
    have htext := readNat_word_eq_ok_iff.mp hread
    refine Or.inl ⟨_, rfl, ?_⟩
    rwa [UInt32.toNat_ofNat_of_lt' htext.lt]
  | error cause =>
    refine Or.inr ⟨_, rfl, fun n htext => ?_⟩
    rw [readNat_word_eq_ok_iff.mpr htext] at hread
    cases hread

/-! ## Round-trip times -/

namespace Format

/-- Infinity is a power of two, counted in units of the least positive number. -/
theorem units_infinity (f : Format) (hbits : 0 < f.exponentBits) :
    f.units f.infinity = 2 ^ (f.fractionBits + (2 ^ f.exponentBits - 2)) := by
  have htwo : 2 ≤ 2 ^ f.exponentBits := Nat.pow_le_pow_right two_pos hbits
  have hpattern : f.infinity
      = (2 ^ f.exponentBits - 2) * 2 ^ f.fractionBits + 2 ^ f.fractionBits := by
    rw [infinity, ← Nat.succ_mul]
    congr 1
    omega
  rw [hpattern, f.units_add (Nat.le_mul_of_pos_left _ two_pos) (Or.inr le_rfl), ← Nat.pow_add]

end Format

namespace FloatLiteral

section Magnitude

variable (f : Format) {digits : List Char} {exponent : ℤ}

/-- A literal that is recognised as too large is. -/
theorem units_infinity_le (hbits : 0 < f.exponentBits) (hcoefficient : ofDecimal digits ≠ 0)
    (h : (2 ^ f.exponentBits : ℕ) ≤ exponent) :
    (f.units f.infinity : ℚ) ≤ ofDecimal digits * 10 ^ exponent * (2 ^ f.scale : ℕ) := by
  have hone : (1 : ℚ) ≤ ofDecimal digits :=
    Nat.one_le_cast.mpr (Nat.one_le_iff_ne_zero.mpr hcoefficient)
  have hfraction : f.fractionBits ≤ f.scale := Nat.le_add_left _ _
  have hunits : (f.units f.infinity : ℚ) ≤ (2 ^ (2 ^ f.exponentBits) * 2 ^ f.scale : ℕ) := by
    rw [f.units_infinity hbits, ← Nat.pow_add, Nat.cast_le, Nat.add_comm]
    exact Nat.pow_le_pow_right two_pos (Nat.add_le_add (Nat.sub_le _ 2) hfraction)
  have hpower : ((2 ^ (2 ^ f.exponentBits) : ℕ) : ℚ) ≤ 10 ^ exponent := by
    calc ((2 ^ (2 ^ f.exponentBits) : ℕ) : ℚ)
        ≤ ((10 ^ (2 ^ f.exponentBits) : ℕ) : ℚ) :=
          Nat.cast_le.mpr (Nat.pow_le_pow_left (by decide) _)
      _ = 10 ^ ((2 ^ f.exponentBits : ℕ) : ℤ) := by rw [zpow_natCast, Nat.cast_pow, Nat.cast_ofNat]
      _ ≤ 10 ^ exponent := zpow_le_zpow_right₀ (by norm_num) h
  rw [Nat.cast_mul] at hunits
  refine hunits.trans (mul_le_mul_of_nonneg_right ?_ (Nat.cast_nonneg _))
  exact hpower.trans (le_mul_of_one_le_left (zpow_nonneg (by norm_num) _) hone)

/-- A literal that is recognised as too small is. -/
theorem two_mul_le_one (hdigits : Digits digits)
    (h : exponent + digits.length < -(f.scale : ℤ)) :
    2 * (ofDecimal digits * 10 ^ exponent * (2 ^ f.scale : ℕ)) ≤ (1 : ℚ) := by
  have hten : (10 : ℚ) ≠ 0 := by norm_num
  have hcoefficient : (ofDecimal digits : ℚ) ≤ 10 ^ (digits.length : ℤ) := by
    rw [zpow_natCast]
    exact_mod_cast hdigits.ofDecimal_lt.le
  have hscale : ((2 ^ f.scale : ℕ) : ℚ) ≤ 10 ^ (f.scale : ℤ) := by
    rw [zpow_natCast]
    exact_mod_cast Nat.pow_le_pow_left (by decide) f.scale
  calc 2 * ((ofDecimal digits : ℚ) * 10 ^ exponent * (2 ^ f.scale : ℕ))
      ≤ 2 * (10 ^ (digits.length : ℤ) * 10 ^ exponent * 10 ^ (f.scale : ℤ)) := by gcongr
    _ = 2 * 10 ^ (digits.length + exponent + f.scale) := by
      rw [zpow_add₀ hten, zpow_add₀ hten]
    _ ≤ 2 * 10 ^ (-1 : ℤ) := by
      gcongr
      · norm_num
      · omega
    _ ≤ 1 := by norm_num

/-- **A literal is rounded once**, to the nearest number of the format. -/
theorem isNearest_magnitude (hfraction : 0 < f.fractionBits) (hbits : 0 < f.exponentBits)
    (hdigits : Digits digits) :
    f.IsNearest (ofDecimal digits * 10 ^ exponent * (2 ^ f.scale : ℕ))
      (magnitude f digits exponent) := by
  have hnonneg : (0 : ℚ) ≤ ofDecimal digits * 10 ^ exponent * (2 ^ f.scale : ℕ) :=
    mul_nonneg (mul_nonneg (Nat.cast_nonneg _) (zpow_nonneg (by norm_num) _)) (Nat.cast_nonneg _)
  unfold magnitude
  dsimp only
  split
  case isTrue hzero =>
    refine Format.isNearest_zero hnonneg ?_
    rw [hzero]
    norm_num
  case isFalse hcoefficient =>
    split
    case isTrue hhigh =>
      exact Format.isNearest_infinity (units_infinity_le f hbits hcoefficient hhigh)
    case isFalse =>
      split
      case isTrue hlow => exact Format.isNearest_zero hnonneg (two_mul_le_one f hdigits hlow)
      case isFalse =>
        split
        case isTrue hsign =>
          obtain ⟨e, rfl⟩ := Int.eq_ofNat_of_zero_le hsign
          have hvalue : (ofDecimal digits * 10 ^ (e : ℤ) * (2 ^ f.scale : ℕ) : ℚ)
              = (ofDecimal digits * 10 ^ e * 2 ^ f.scale : ℕ) / (1 : ℕ) := by
            rw [zpow_natCast, Nat.cast_one, div_one]
            push_cast
            rfl
          rw [hvalue]
          exact Format.isNearest_nearest hfraction Nat.one_pos
        case isFalse hsign =>
          obtain ⟨e, he⟩ :=
            Int.eq_ofNat_of_zero_le (Int.neg_nonneg_of_nonpos (Int.le_of_not_le hsign))
          obtain rfl := Int.neg_eq_comm.mp he
          have hvalue : (ofDecimal digits * 10 ^ (-(e : ℤ)) * (2 ^ f.scale : ℕ) : ℚ)
              = (ofDecimal digits * 2 ^ f.scale : ℕ) / (10 ^ e : ℕ) := by
            rw [zpow_neg, zpow_natCast, mul_right_comm, ← div_eq_mul_inv]
            push_cast
            rfl
          rw [hvalue, he, Int.toNat_natCast]
          exact Format.isNearest_nearest hfraction (Nat.pow_pos (by decide))

end Magnitude

end FloatLiteral

/-- **A round-trip time that is what a literal says**: a NaN, a signed infinity, or the nearest
number. -/
def Quantity.Fits (rtt : Rtt) : Quantity → Prop
  | nan => rtt.value? = none
  | infinity negative => rtt.value? = some (if negative then ⊥ else ⊤)
  | finite negative size => rtt.IsNearest negative size

/-- What is read as a literal is rounded to what it says. -/
theorem FloatLiteral.fits_quantity {field : List Char} {literal : FloatLiteral}
    (h : read field = some literal) :
    literal.quantity.Fits ⟨UInt32.ofNat (literal.pattern Format.single)⟩ := by
  cases literal with
  | nan negative =>
    refine Rtt.value?_of_isNaN ?_
    cases negative <;> decide
  | infinity negative =>
    have hmagnitude : (Rtt.ofParts negative Format.single.infinity).magnitude
        = Format.single.infinity := Rtt.magnitude_ofParts negative le_rfl
    have hvalue := Rtt.value?_of_infinite hmagnitude
    rw [Rtt.negative_ofParts negative le_rfl] at hvalue
    exact hvalue
  | finite negative digits exponent =>
    exact Rtt.isNearest_ofParts (mul_nonneg (Nat.cast_nonneg _) (zpow_nonneg (by norm_num) _))
      (isNearest_magnitude _ (by decide) (by decide) (digits_of_read h))

/-- **A round-trip time**, and what it says: `n/a` in any case, which says that there is no sample,
or a float literal. -/
inductive RttText : List Char → Option Quantity → Prop
  | unavailable {field : List Char} : field.map Char.toLower = Rtt.unavailable → RttText field none
  | literal {field : List Char} {q : Quantity} : FloatText field q → RttText field (some q)

namespace Rtt

/-- **A round-trip time that is what a field says**. Where the field says that there is no sample
it is minus one. -/
def Fits (rtt : Rtt) : Option Quantity → Prop
  | none => rtt.value? = some ((-1 : ℚ) : WithBotTop ℚ)
  | some q => q.Fits rtt

/-- There is no sign in front of `n/a`. -/
theorem eq_unavailable_of_sign {sign rest : List Char} {negative : Bool}
    (hsign : SignText sign negative) (h : (sign ++ rest).map Char.toLower = unavailable) :
    rest.map Char.toLower = unavailable := by
  cases hsign with
  | none => exact h
  | plus => cases h
  | minus => cases h

/-- What says that there is no sample is no literal. -/
theorem not_floatText_of_unavailable {field : List Char}
    (h : field.map Char.toLower = unavailable) (q : Quantity) : ¬FloatText field q := by
  intro hliteral
  cases hliteral with
  | infinity hsign hword =>
    rw [eq_unavailable_of_sign hsign h] at hword
    exact absurd hword (by decide)
  | nan hsign hword =>
    rw [eq_unavailable_of_sign hsign h] at hword
    exact absurd hword (by decide)
  | @finite _ _ _ _ exponent _ _ hsign hwhole hpoint hne =>
    obtain ⟨c, t, hcons, hc⟩ :=
      FloatLiteral.exists_eq_cons_of_fractionText hwhole hpoint hne exponent
    have hrest := eq_unavailable_of_sign hsign h
    rw [hcons] at hrest
    exact FloatLiteral.map_toLower_ne hc (by decide) hrest

/-- **A round-trip time is read as what it says**, and nothing else is read as one. -/
theorem read?_cases (field : List Char) :
    (∃ rtt q, read? field = some rtt ∧ RttText field q ∧ rtt.Fits q)
      ∨ read? field = none ∧ ∀ q, ¬RttText field q := by
  unfold read?
  split
  case isTrue h =>
    refine Or.inl ⟨unknown, none, rfl, .unavailable h, ?_⟩
    show value? unknown = _
    decide +kernel
  case isFalse h =>
    cases hread : FloatLiteral.read field with
    | some literal =>
      exact Or.inl ⟨_, _, rfl, .literal (FloatLiteral.floatText_of_read hread),
        FloatLiteral.fits_quantity hread⟩
    | none =>
      refine Or.inr ⟨rfl, ?_⟩
      rintro _ (hword | hliteral)
      · exact h hword
      · obtain ⟨literal, hsome, -⟩ := FloatLiteral.exists_read_of_floatText hliteral
        rw [hsome] at hread
        cases hread

end Rtt

/-- A field says one thing. -/
theorem RttText.unique {field : List Char} {q q' : Option Quantity} (h : RttText field q)
    (h' : RttText field q') : q' = q := by
  cases h with
  | unavailable hword =>
    cases h' with
    | unavailable => rfl
    | literal hliteral' => exact absurd hliteral' (Rtt.not_floatText_of_unavailable hword _)
  | literal hliteral =>
    cases h' with
    | unavailable hword' => exact absurd hliteral (Rtt.not_floatText_of_unavailable hword' _)
    | literal hliteral' =>
      obtain ⟨literal, hread, rfl⟩ := FloatLiteral.exists_read_of_floatText hliteral
      obtain ⟨literal', hread', rfl⟩ := FloatLiteral.exists_read_of_floatText hliteral'
      rw [Option.some.inj (hread'.symm.trans hread)]

/-! ## Fields -/

/-- **Three fields with a colon between each two.** -/
structure HasFields (text id rtt losses : List Char) : Prop where
  eq_append : text = id ++ ':' :: (rtt ++ ':' :: losses)
  notMem_id : ':' ∉ id
  notMem_rtt : ':' ∉ rtt
  notMem_losses : ':' ∉ losses

theorem HasFields.splitOn {text id rtt losses : List Char} (h : HasFields text id rtt losses) :
    text.splitOn ':' = [id, rtt, losses] := by
  rw [h.eq_append, List.splitOn_append_cons_self_of_not_mem h.notMem_id,
    List.splitOn_append_cons_self_of_not_mem h.notMem_rtt,
    List.splitOn_eq_singleton h.notMem_losses]

theorem HasFields.unique {text id rtt losses id' rtt' losses' : List Char}
    (h : HasFields text id rtt losses) (h' : HasFields text id' rtt' losses') :
    id' = id ∧ rtt' = rtt ∧ losses' = losses := by
  have hfields := h'.splitOn.symm.trans h.splitOn
  simpa only [List.cons.injEq, and_true] using hfields

/-- **A text falls apart at its marks**, into one piece more than there are marks. -/
theorem length_splitOn (c : Char) (text : List Char) :
    (text.splitOn c).length = text.count c + 1 := by
  induction hn : text.length using Nat.strongRecOn generalizing text with
  | ind n ih =>
    by_cases hmem : c ∈ text
    · obtain ⟨piece, rest, rfl, hpiece⟩ := List.eq_append_cons_of_mem hmem
      have hlength : rest.length < n := by
        rw [← hn, List.length_append, List.length_cons]
        omega
      rw [List.splitOn_append_cons_self_of_not_mem hpiece, List.length_cons,
        ih _ hlength rest rfl, List.count_append, List.count_eq_zero_of_not_mem hpiece,
        List.count_cons_self, Nat.zero_add]
    · rw [List.splitOn_eq_singleton hmem, List.count_eq_zero_of_not_mem hmem]
      rfl

/-- **A text with two colons has three fields.** -/
theorem exists_hasFields {text : List Char} (h : text.count ':' = 2) :
    ∃ id rtt losses, HasFields text id rtt losses := by
  have hmem : ':' ∈ text := List.count_pos_iff.mp (Nat.lt_of_lt_of_eq two_pos h.symm)
  obtain ⟨id, rest, rfl, hid⟩ := List.eq_append_cons_of_mem hmem
  have hrest : rest.count ':' = 1 := by
    rw [List.count_append, List.count_eq_zero_of_not_mem hid, List.count_cons_self] at h
    omega
  have hmem' : ':' ∈ rest := List.count_pos_iff.mp (Nat.lt_of_lt_of_eq one_pos hrest.symm)
  obtain ⟨rtt, losses, rfl, hrtt⟩ := List.eq_append_cons_of_mem hmem'
  rw [List.count_append, List.count_eq_zero_of_not_mem hrtt, List.count_cons_self] at hrest
  exact ⟨id, rtt, losses, rfl, hid, hrtt, List.count_eq_zero.mp (by omega)⟩

theorem HasFields.count {text id rtt losses : List Char} (h : HasFields text id rtt losses) :
    text.count ':' = 2 := by
  have hlength := length_splitOn ':' text
  rw [h.splitOn] at hlength
  exact (Nat.succ.inj hlength).symm

/-! ## Messages -/

/-- What can be to blame for a text that is no record. -/
inductive PeerTextPart
  | shape
  | id
  | losses
  | rtt
  deriving DecidableEq

/-- What a message begins with that blames a part. -/
def PeerTextPart.front : PeerTextPart → List Char
  | shape => "expected ID:RTT_US:LOSS, got '".toList
  | id => "bad peer id '".toList
  | losses => "bad loss count '".toList
  | rtt => "bad rtt '".toList

/-- **A message that names a part**, and quotes it. -/
def PeerTextPart.Named (part : PeerTextPart) (quoted message : List Char) : Prop :=
  ∃ rest, message = part.front ++ (quoted ++ ("'".toList ++ rest))

namespace PeerTextError

/-- The part that is blamed. -/
def part : PeerTextError → PeerTextPart
  | shape _ => .shape
  | id _ _ => .id
  | losses _ _ => .losses
  | rtt _ => .rtt

/-- What stands in quotes. -/
def quoted : PeerTextError → List Char
  | shape text => text
  | id field _ => field
  | losses field _ => field
  | rtt field => field

theorem toList_quoted (front : String) (text : List Char) (back : String) :
    (front ++ String.ofList text ++ back).toList = front.toList ++ (text ++ back.toList) := by
  rw [String.toList_append, String.toList_append, String.toList_ofList, List.append_assoc]

/-- A message with a cause behind what is quoted. -/
theorem named_of_cause (part : PeerTextPart) {front : String} (hfront : front.toList = part.front)
    (text : List Char) (cause : String) :
    part.Named text (front ++ String.ofList text ++ "': " ++ cause).toList := by
  refine ⟨": ".toList ++ cause.toList, ?_⟩
  rw [String.toList_append, toList_quoted, hfront, List.append_assoc, List.append_assoc]
  rfl

/-- A message names what is blamed. -/
theorem named_part (e : PeerTextError) : e.part.Named e.quoted e.message.toList := by
  cases e with
  | shape text => exact ⟨[], toList_quoted _ text _⟩
  | id field cause => exact named_of_cause .id rfl field cause.message
  | losses field cause => exact named_of_cause .losses rfl field cause.message
  | rtt field => exact named_of_cause .rtt rfl field (floatMessage field)

/-- **A message names nothing but what is blamed**: no two begin alike. -/
theorem part_eq_of_named {e : PeerTextError} {part : PeerTextPart} {quoted : List Char}
    (h : part.Named quoted e.message.toList) : e.part = part := by
  have hfront : ∀ a b : PeerTextPart, a.front <+: b.front → b = a := by
    intro a b
    cases a <;> cases b <;> decide
  obtain ⟨rest, hmessage⟩ := h
  obtain ⟨rest', hmessage'⟩ := e.named_part
  rcases List.prefix_or_prefix_of_prefix ⟨_, hmessage.symm⟩ ⟨_, hmessage'.symm⟩ with hle | hle
  · exact hfront _ _ hle
  · exact (hfront _ _ hle).symm

end PeerTextError

/-! ## Records -/

namespace PeerStat

variable {text id rtt losses : List Char}

/-- **What reading a text as a record gives**: one error for each thing that can be the first to
blame, or the record that the fields denote. -/
inductive Reading (text : List Char) : Except PeerTextError PeerStat → Prop
  | shape : text.count ':' ≠ 2 → Reading text (.error (.shape text))
  | id {id rtt losses : List Char} {cause : IntegerError} : HasFields text id rtt losses →
    (∀ n, ¬WordText id n) → Reading text (.error (.id id cause))
  | losses {id rtt losses : List Char} {n : ℕ} {cause : IntegerError} :
    HasFields text id rtt losses → WordText id n → (∀ m, ¬WordText losses m) →
    Reading text (.error (.losses losses cause))
  | rtt {id rtt losses : List Char} {n m : ℕ} : HasFields text id rtt losses → WordText id n →
    WordText losses m → (∀ q, ¬RttText rtt q) → Reading text (.error (.rtt rtt))
  | peer {id rtt losses : List Char} {q : Option Quantity} {p : PeerStat} :
    HasFields text id rtt losses → WordText id p.id.toNat → WordText losses p.losses.toNat →
    RttText rtt q → p.rtt.Fits q → Reading text (.ok p)

theorem parse_of_count_ne (h : text.count ':' ≠ 2) : parse text = .error (.shape text) := by
  unfold parse
  split
  · rename_i hsplit
    have hlength := length_splitOn ':' text
    rw [hsplit] at hlength
    exact absurd (Nat.succ.inj hlength).symm h
  · rfl

/-- **Every text is read in one of these ways.** -/
theorem reading_parse (text : List Char) : Reading text (parse text) := by
  by_cases hcount : text.count ':' = 2
  · obtain ⟨id, rtt, losses, hfields⟩ := exists_hasFields hcount
    unfold parse
    rw [hfields.splitOn]
    dsimp only
    obtain ⟨word, hread, hid⟩ | ⟨cause, hread, hid⟩ := readWord32_cases (.id id) id
    · rw [hread]
      obtain ⟨word', hread', hlosses⟩ | ⟨cause, hread', hlosses⟩ :=
        readWord32_cases (.losses losses) losses
      · rw [hread']
        obtain ⟨value, q, hread'', htext, hfits⟩ | ⟨hread'', htext⟩ := Rtt.read?_cases rtt
        · rw [hread'']
          exact .peer (p := ⟨word, value, word'⟩) hfields hid hlosses htext hfits
        · rw [hread'']
          exact .rtt hfields hid hlosses htext
      · rw [hread']
        exact .losses hfields hid hlosses
    · rw [hread]
      exact .id hfields hid
  · rw [parse_of_count_ne hcount]
    exact .shape hcount

/-- The fields of a record denote its numbers. -/
theorem exists_of_parse_eq_ok {p : PeerStat} (h : parse text = .ok p) :
    ∃ id rtt losses q, HasFields text id rtt losses ∧ WordText id p.id.toNat
      ∧ WordText losses p.losses.toNat ∧ RttText rtt q ∧ p.rtt.Fits q := by
  have hread := reading_parse text
  rw [h] at hread
  cases hread with
  | peer hfields hid hlosses htext hfits =>
    exact ⟨_, _, _, _, hfields, hid, hlosses, htext, hfits⟩

section Fields

variable (hfields : HasFields text id rtt losses)
include hfields

/-- Three good fields are a record. -/
theorem exists_parse_eq_ok (hid : ∃ n, WordText id n) (hrtt : ∃ q, RttText rtt q)
    (hlosses : ∃ n, WordText losses n) : ∃ p, parse text = .ok p := by
  have hread := reading_parse text
  cases hparse : parse text with
  | ok p => exact ⟨p, rfl⟩
  | error e =>
    rw [hparse] at hread
    cases hread with
    | shape hcount => exact absurd hfields.count hcount
    | id hfields' hbad =>
      obtain ⟨rfl, rfl, rfl⟩ := hfields.unique hfields'
      exact absurd hid (not_exists.mpr hbad)
    | losses hfields' _ hbad =>
      obtain ⟨rfl, rfl, rfl⟩ := hfields.unique hfields'
      exact absurd hlosses (not_exists.mpr hbad)
    | rtt hfields' _ _ hbad =>
      obtain ⟨rfl, rfl, rfl⟩ := hfields.unique hfields'
      exact absurd hrtt (not_exists.mpr hbad)

theorem numbers_of_parse_eq_ok {p : PeerStat} (h : parse text = .ok p) :
    (∀ n, WordText id n ↔ n = p.id.toNat) ∧ (∀ n, WordText losses n ↔ n = p.losses.toNat)
      ∧ ∀ q, RttText rtt q → p.rtt.Fits q := by
  obtain ⟨id', rtt', losses', q, hfields', hid, hlosses, htext, hfits⟩ := exists_of_parse_eq_ok h
  obtain ⟨rfl, rfl, rfl⟩ := hfields.unique hfields'
  refine ⟨fun n => ⟨hid.unique, ?_⟩, fun n => ⟨hlosses.unique, ?_⟩, fun q' htext' => ?_⟩
  · rintro rfl
    exact hid
  · rintro rfl
    exact hlosses
  · rw [htext.unique htext']
    exact hfits

/-- **The first bad field is to blame**, the losses being tried before the round-trip time. -/
theorem named_iff_of_parse_eq_error {e : PeerTextError} (h : parse text = .error e) :
    (PeerTextPart.id.Named id e.message.toList ↔ ¬∃ n, WordText id n)
      ∧ (PeerTextPart.losses.Named losses e.message.toList
        ↔ (∃ n, WordText id n) ∧ ¬∃ n, WordText losses n)
      ∧ (PeerTextPart.rtt.Named rtt e.message.toList
        ↔ (∃ n, WordText id n) ∧ ∃ n, WordText losses n) := by
  have hother : ∀ {part : PeerTextPart} {quoted : List Char},
      part.Named quoted e.message.toList → e.part = part := PeerTextError.part_eq_of_named
  have hnamed := e.named_part
  have hread := reading_parse text
  rw [h] at hread
  cases hread with
  | shape hcount => exact absurd hfields.count hcount
  | id hfields' hbad =>
    obtain ⟨rfl, rfl, rfl⟩ := hfields.unique hfields'
    have hid := not_exists.mpr hbad
    exact ⟨iff_of_true hnamed hid, iff_of_false (fun hlosses => nomatch hother hlosses) (hid ·.1),
      iff_of_false (fun hrtt => nomatch hother hrtt) (hid ·.1)⟩
  | losses hfields' hid hbad =>
    obtain ⟨rfl, rfl, rfl⟩ := hfields.unique hfields'
    have hlosses := not_exists.mpr hbad
    exact ⟨iff_of_false (fun hid' => nomatch hother hid') (not_not_intro ⟨_, hid⟩),
      iff_of_true hnamed ⟨⟨_, hid⟩, hlosses⟩,
      iff_of_false (fun hrtt => nomatch hother hrtt) (hlosses ·.2)⟩
  | rtt hfields' hid hlosses hbad =>
    obtain ⟨rfl, rfl, rfl⟩ := hfields.unique hfields'
    exact ⟨iff_of_false (fun hid' => nomatch hother hid') (not_not_intro ⟨_, hid⟩),
      iff_of_false (fun hlosses' => nomatch hother hlosses') (·.2 ⟨_, hlosses⟩),
      iff_of_true hnamed ⟨⟨_, hid⟩, ⟨_, hlosses⟩⟩⟩

end Fields

/-- The shape is to blame where there are not two colons. -/
theorem named_shape_iff_of_parse_eq_error {e : PeerTextError} (h : parse text = .error e) :
    PeerTextPart.shape.Named text e.message.toList ↔ text.count ':' ≠ 2 := by
  constructor
  · intro hnamed hcount
    have hshape := PeerTextError.part_eq_of_named hnamed
    have hread := reading_parse text
    rw [h] at hread
    cases hread with
    | shape hne => exact hne hcount
    | id | losses | rtt => cases hshape
  · intro hcount
    rw [parse_of_count_ne hcount] at h
    cases h
    exact PeerTextError.named_part _

/-- **The grammar of peer records.** A text is a record if it is three fields with two colons
between them, of which the outer ones are 32-bit integers and the one between them is a round-trip
time. The record then has the numbers that the fields denote. A text that is no record is blamed for
its shape if it has not two colons; and otherwise for its id if that is bad, else for its losses if
those are bad, whatever the round-trip time is, else for the round-trip time. -/
theorem parse_grammar (text : List Char) :
    ((∃ p, parse text = .ok p) ↔ ∃ id rtt losses, HasFields text id rtt losses
        ∧ (∃ n, WordText id n) ∧ (∃ q, RttText rtt q) ∧ ∃ n, WordText losses n)
      ∧ ((∃ id rtt losses, HasFields text id rtt losses) ↔ text.count ':' = 2)
      ∧ (∀ p id rtt losses, parse text = .ok p → HasFields text id rtt losses →
        (∀ n, WordText id n ↔ n = p.id.toNat) ∧ (∀ n, WordText losses n ↔ n = p.losses.toNat)
          ∧ ∀ q, RttText rtt q → p.rtt.Fits q)
      ∧ ∀ e, parse text = .error e →
        (PeerTextPart.shape.Named text e.message.toList ↔ text.count ':' ≠ 2)
          ∧ ∀ id rtt losses, HasFields text id rtt losses →
            (PeerTextPart.id.Named id e.message.toList ↔ ¬∃ n, WordText id n)
              ∧ (PeerTextPart.losses.Named losses e.message.toList
                ↔ (∃ n, WordText id n) ∧ ¬∃ n, WordText losses n)
              ∧ (PeerTextPart.rtt.Named rtt e.message.toList
                ↔ (∃ n, WordText id n) ∧ ∃ n, WordText losses n) := by
  refine ⟨⟨?_, ?_⟩, ⟨?_, exists_hasFields⟩, ?_, ?_⟩
  · rintro ⟨p, hparse⟩
    obtain ⟨id, rtt, losses, q, hfields, hid, hlosses, htext, -⟩ := exists_of_parse_eq_ok hparse
    exact ⟨id, rtt, losses, hfields, ⟨_, hid⟩, ⟨q, htext⟩, ⟨_, hlosses⟩⟩
  · rintro ⟨id, rtt, losses, hfields, hid, hrtt, hlosses⟩
    exact exists_parse_eq_ok hfields hid hrtt hlosses
  · rintro ⟨id, rtt, losses, hfields⟩
    exact hfields.count
  · exact fun p id rtt losses hparse hfields => numbers_of_parse_eq_ok hfields hparse
  · exact fun e hparse => ⟨named_shape_iff_of_parse_eq_error hparse,
      fun id rtt losses hfields => named_iff_of_parse_eq_error hfields hparse⟩

/-- A literal for a number that is less than half of the least positive one. -/
theorem floatText_vanishing : FloatText "-1e-46".toList (.finite true (10 ^ (-46 : ℤ))) := by
  have hone : Digits ['1'] := by decide
  have hsize : Digits ['4', '6'] := by decide
  have h := FloatText.finite .minus hone .none (by decide)
    (.marked (Or.inl rfl) .minus hsize (by decide))
  have hwhole : ofDecimal ['1'] = 1 := by decide
  have hfraction : ofDecimal [] = 0 := by decide
  have hexponent : ofDecimal ['4', '6'] = 46 := by decide
  rw [hwhole, hfraction, hexponent, if_pos rfl, Nat.cast_zero, zero_div, add_zero, Nat.cast_one,
    one_mul] at h
  exact h

/-- A record with a sign and zeros in front of its id, and a round-trip time that is less than half
of the least positive number: it is read, as a negative zero. With a bad count of losses it is
not, and the count is to blame. -/
theorem parse_grammar_of_vanishing :
    (∃ p, parse "+007:-1e-46:3".toList = .ok p ∧ p.id.toNat = 7 ∧ p.losses.toNat = 3
      ∧ p.rtt.negative = true ∧ p.rtt.value? = some (0 : WithBotTop ℚ))
      ∧ ∃ e, parse "+007:-1e-46:-3".toList = .error e
        ∧ PeerTextPart.losses.Named "-3".toList e.message.toList := by
  have hid : WordText "+007".toList 7 := @WordText.digits ['+'] ['0', '0', '7']
    (Or.inr rfl) (by decide) (by decide) (by decide)
  have hlosses : WordText "3".toList 3 := @WordText.digits [] ['3']
    (Or.inl rfl) (by decide) (by decide) (by decide)
  have hnegative : ¬∃ n, WordText "-3".toList n := by
    rintro ⟨n, htext⟩
    cases readNat_word_eq_ok_iff.mpr htext
  have hrtt : RttText "-1e-46".toList (some (.finite true (10 ^ (-46 : ℤ)))) :=
    .literal floatText_vanishing
  have hgood : HasFields "+007:-1e-46:3".toList "+007".toList "-1e-46".toList "3".toList :=
    ⟨rfl, by decide, by decide, by decide⟩
  have hbad : HasFields "+007:-1e-46:-3".toList "+007".toList "-1e-46".toList "-3".toList :=
    ⟨rfl, by decide, by decide, by decide⟩
  constructor
  · obtain ⟨haccept, -, hnumbers, -⟩ := parse_grammar "+007:-1e-46:3".toList
    obtain ⟨p, hparse⟩ := haccept.mpr ⟨_, _, _, hgood, ⟨7, hid⟩, ⟨_, hrtt⟩, ⟨3, hlosses⟩⟩
    obtain ⟨hids, hcounts, hfits⟩ := hnumbers p _ _ _ hparse hgood
    have hnearest : p.rtt.IsNearest true (10 ^ (-46 : ℤ)) := hfits _ hrtt
    exact ⟨p, hparse, ((hids 7).mp hid).symm, ((hcounts 3).mp hlosses).symm,
      hnearest.negative_eq, hnearest.value?_of_underflow (by norm_num)⟩
  · obtain ⟨haccept, -, -, herror⟩ := parse_grammar "+007:-1e-46:-3".toList
    cases hparse : parse "+007:-1e-46:-3".toList with
    | ok p =>
      obtain ⟨id, rtt, losses, hfields, -, -, hgood'⟩ := haccept.mp ⟨p, hparse⟩
      obtain ⟨rfl, rfl, rfl⟩ := hbad.unique hfields
      exact absurd hgood' hnegative
    | error e =>
      obtain ⟨-, hnamed⟩ := herror e hparse
      exact ⟨e, rfl, (hnamed _ _ _ hbad).2.1.mpr ⟨⟨7, hid⟩, hnegative⟩⟩

end PeerStat

end PeerTelemetry
