import Mathlib.Algebra.Order.Monoid.Unbundled.WithTop
import Mathlib.Order.WithBotTop
import Mathlib.Tactic.NormNum
import PeerTelemetry.Proofs.NearestEven
import PeerTelemetry.Proofs.ShownPeers
import PeerTelemetry.Proofs.UniqueReading

/-!
# Round-trip times are shown correctly rounded

What is shown of a round-trip time is written from a natural number, the thousandths, and
these are computed from another, the units in which a format counts its magnitudes. Neither
of the two is what the bits mean. What they mean is a rational number, an infinity or
nothing at all, and it is read off three fields (`Rtt.value?`); and what a text says is
said by the digits in it (`ShownTime`). Between the two stands one statement:
**the digits denote the integer nearest to a thousand times the number**, a tie going
to the even one.

The step from the fields to the units is the only one that looks into a pattern
(`Rtt.value?_of_finite`). After it the rounding is that of a quotient of naturals, whatever the
exponent was, and the order of what is shown is the order of nearest integers.
-/

namespace PeerTelemetry

-- Powers of numbers are the core library's own, whatever algebra is loaded besides.
attribute [local instance (high)] instPowNat

namespace Rtt

/-! ## The number of a pattern -/

/-- The eight bits behind the sign. -/
def exponentField (rtt : Rtt) : Nat := rtt.bits.toNat / 2 ^ 23 % 2 ^ 8

/-- The bits behind the exponent. -/
def fractionField (rtt : Rtt) : Nat := rtt.bits.toNat % 2 ^ 23

/-- **The size of a number that is finite**: the fraction, with a one in front of it unless
the exponent is the least. -/
def size (rtt : Rtt) : ℚ :=
  if rtt.exponentField = 0 then rtt.fractionField / 2 ^ 23 * 2 ^ (-126 : ℤ)
  else (1 + rtt.fractionField / 2 ^ 23) * 2 ^ ((rtt.exponentField : ℤ) - 127)

/-- **The number the bits stand for**: a rational number, an infinity, or none. -/
def value? (rtt : Rtt) : Option (WithBotTop ℚ) :=
  if rtt.exponentField = 255 then
    if rtt.fractionField ≠ 0 then none
    else some (if 2 ^ 31 ≤ rtt.bits.toNat then ⊥ else ⊤)
  else some ((if 2 ^ 31 ≤ rtt.bits.toNat then -rtt.size else rtt.size : ℚ) : WithBotTop ℚ)

/-- One sixteenth, the least number above zero, and the number of `Rtt.unknown`. -/
example : value? ⟨0x3D800000⟩ = some ((1 / 16 : ℚ) : WithBotTop ℚ)
    ∧ value? ⟨1⟩ = some ((2 ^ (-149 : ℤ) : ℚ) : WithBotTop ℚ)
    ∧ value? unknown = some ((-1 : ℚ) : WithBotTop ℚ) := by decide +kernel

variable {rtt : Rtt}

theorem fractionField_lt (rtt : Rtt) : rtt.fractionField < 2 ^ 23 := Nat.mod_lt _ (by decide)

theorem exponentField_lt (rtt : Rtt) : rtt.exponentField < 2 ^ 8 := Nat.mod_lt _ (by decide)

theorem magnitude_eq (rtt : Rtt) :
    rtt.magnitude = rtt.exponentField * 2 ^ 23 + rtt.fractionField := by
  rw [magnitude, exponentField, fractionField, Format.signBit_single]
  omega

theorem negative_iff : rtt.negative = true ↔ 2 ^ 31 ≤ rtt.bits.toNat :=
  decide_eq_true_iff

theorem units_magnitude (rtt : Rtt) :
    Format.single.units rtt.magnitude
      = if rtt.exponentField = 0 then rtt.fractionField
        else (2 ^ 23 + rtt.fractionField) * 2 ^ (rtt.exponentField - 1) := by
  have hexponent : rtt.magnitude / 2 ^ 23 = rtt.exponentField := by
    rw [magnitude_eq, Nat.add_comm, Nat.add_mul_div_right _ _ (by decide),
      Nat.div_eq_of_lt rtt.fractionField_lt, Nat.zero_add]
  have hfraction : rtt.magnitude % 2 ^ 23 = rtt.fractionField := by
    rw [magnitude_eq, Nat.mul_add_mod', Nat.mod_eq_of_lt rtt.fractionField_lt]
  show (if rtt.magnitude / 2 ^ 23 = 0 then rtt.magnitude % 2 ^ 23
    else (2 ^ 23 + rtt.magnitude % 2 ^ 23) * 2 ^ (rtt.magnitude / 2 ^ 23 - 1)) = _
  rw [hexponent, hfraction]

/-- **A size is counted in units** of the least number above zero. -/
theorem size_eq (rtt : Rtt) :
    rtt.size = (Format.single.units rtt.magnitude : ℚ) / (2 ^ Format.single.scale : Nat) := by
  have hscale : ((2 ^ Format.single.scale : Nat) : ℚ) = 2 ^ 23 * 2 ^ 126 := by
    rw [Format.scale_single, ← pow_add]
    norm_num
  have hbias : (2 : ℚ) ^ (-126 : ℤ) = 1 / 2 ^ 126 := by rw [zpow_neg, one_div, zpow_ofNat]
  rw [size, units_magnitude, hscale]
  by_cases hsubnormal : rtt.exponentField = 0
  · rw [if_pos hsubnormal, if_pos hsubnormal, hbias]
    field_simp
  · obtain ⟨e, he⟩ := Nat.exists_eq_add_one_of_ne_zero hsubnormal
    have hexponent : (2 : ℚ) ^ ((rtt.exponentField : ℤ) - 127) = 2 ^ e / 2 ^ 126 := by
      rw [he, show ((e + 1 : ℕ) : ℤ) - 127 = e + -126 by omega, zpow_add₀ two_ne_zero, hbias,
        zpow_natCast, mul_one_div]
    rw [if_neg hsubnormal, if_neg hsubnormal, hexponent, he, Nat.add_sub_cancel]
    push_cast
    field_simp
    norm_num

theorem size_nonneg (rtt : Rtt) : 0 ≤ rtt.size := by
  rw [size_eq]
  positivity

/-- Only the zeros have no size. -/
theorem size_eq_zero_iff : rtt.size = 0 ↔ rtt.magnitude = 0 := by
  have hunits : Format.single.units rtt.magnitude = 0 ↔ rtt.magnitude = 0 := by
    rw [units_magnitude, magnitude_eq]
    split
    · omega
    · exact iff_of_false (Nat.mul_pos (by omega) (Nat.two_pow_pos _)).ne' (by omega)
  rw [size_eq, div_eq_zero_iff, or_iff_left (by positivity), Nat.cast_eq_zero, hunits]

theorem value?_of_isNaN (h : Format.single.infinity < rtt.magnitude) : rtt.value? = none := by
  have hfraction := rtt.fractionField_lt
  have hexponent := rtt.exponentField_lt
  rw [magnitude_eq, Format.infinity_single] at h
  rw [value?, if_pos (by omega), if_pos (by omega)]

theorem value?_of_infinite (h : rtt.magnitude = Format.single.infinity) :
    rtt.value? = some (if rtt.negative then ⊥ else ⊤) := by
  have hfraction := rtt.fractionField_lt
  rw [magnitude_eq, Format.infinity_single] at h
  rw [value?, if_pos (by omega), if_neg (by omega)]
  simp only [negative_iff]

theorem value?_of_finite (h : rtt.magnitude < Format.single.infinity) :
    rtt.value? = some ((if rtt.negative then -rtt.size else rtt.size : ℚ) : WithBotTop ℚ) := by
  rw [magnitude_eq, Format.infinity_single] at h
  rw [value?, if_neg (by omega)]
  simp only [negative_iff]

/-- **A sample is a number that is at least zero.** -/
theorem isSample_iff_nonneg :
    rtt.isSample = true ↔ ∃ v : WithBotTop ℚ, rtt.value? = some v ∧ 0 ≤ v := by
  rw [isSample_iff]
  rcases Nat.lt_trichotomy rtt.magnitude Format.single.infinity with hfinite | hinfinite | hnan
  · have hsign : (0 : WithBotTop ℚ) ≤ ((if rtt.negative then -rtt.size else rtt.size : ℚ))
        ↔ (rtt.negative = true → rtt.magnitude = 0) := by
      refine WithBotTop.coe_le_coe.trans ?_
      cases rtt.negative with
      | false => exact iff_of_true rtt.size_nonneg (fun h => absurd h Bool.false_ne_true)
      | true =>
        rw [if_pos rfl, Left.nonneg_neg_iff, rtt.size_nonneg.ge_iff_eq', size_eq_zero_iff]
        exact ⟨fun h _ => h, fun h => h rfl⟩
    rw [value?_of_finite hfinite, and_iff_right hfinite.le, ← hsign]
    simp only [Option.some.injEq, exists_eq_left']
  · have hne : rtt.magnitude ≠ 0 := by
      rw [hinfinite]
      decide
    rw [value?_of_infinite hinfinite, and_iff_right hinfinite.le]
    simp only [Option.some.injEq, exists_eq_left']
    cases rtt.negative with
    | false => exact iff_of_true (fun h => absurd h Bool.false_ne_true) le_top
    | true => exact iff_of_false (fun h => hne (h rfl)) (by decide)
  · rw [value?_of_isNaN hnan]
    refine iff_of_false (fun h => Nat.not_le.mpr hnan h.1) ?_
    rintro ⟨v, hv, -⟩
    cases hv

end Rtt

/-! ## What a text says -/

/-- **A time as it is shown**: digits, the first of which is a zero only if it is the only one,
a point, and three digits. -/
@[ext]
structure ShownTime where
  negative : Bool
  whole : List Char
  fraction : List Char
  isDigit_of_mem_whole : ∀ c ∈ whole, c.isDigit = true
  whole_ne_nil : whole ≠ []
  eq_nil_of_whole_eq : ∀ rest, whole = '0' :: rest → rest = []
  isDigit_of_mem_fraction : ∀ c ∈ fraction, c.isDigit = true
  length_fraction : fraction.length = 3

namespace ShownTime

/-- What stands before the point. -/
def front (t : ShownTime) : List Char := (if t.negative then ['-'] else []) ++ t.whole

/-- **How it is written**, the unit included. -/
def text (t : ShownTime) : List Char := t.front ++ '.' :: (t.fraction ++ " us".toList)

/-- The number its digits denote, in thousandths of a microsecond. -/
def thousandths (t : ShownTime) : ℕ := ofDecimal (t.whole ++ t.fraction)

/-- **The number it denotes**, in microseconds. -/
def number (t : ShownTime) : ℚ :=
  if t.negative then -(t.thousandths / 1000) else t.thousandths / 1000

theorem notMem_front {c : Char} (hdigit : c.isDigit = false) (hminus : c ≠ '-') (t : ShownTime) :
    c ∉ t.front := by
  intro hc
  rcases List.mem_append.mp hc with hsign | hwhole
  · split at hsign
    · exact hminus (List.mem_singleton.mp hsign)
    · exact List.not_mem_nil hsign
  · rw [t.isDigit_of_mem_whole c hwhole] at hdigit
    cases hdigit

/-- There is no minus sign but the one in front. -/
theorem minus_mem_front (t : ShownTime) : '-' ∈ t.front ↔ t.negative = true := by
  have hwhole : '-' ∉ t.whole := fun hc =>
    absurd (t.isDigit_of_mem_whole '-' hc) (by decide)
  unfold front
  cases t.negative with
  | false => exact iff_of_false hwhole Bool.false_ne_true
  | true => exact iff_of_true List.mem_cons_self rfl

/-- **A time can be read in one way only.** -/
theorem text_injective {s t : ShownTime} (h : s.text = t.text) : s = t := by
  have hpoint : ∀ t : ShownTime, '.' ∉ t.front := notMem_front rfl (by decide)
  obtain ⟨hfront, hbehind⟩ := append_cons_inj_of_notMem (hpoint s) (hpoint t) h
  have hnegative : s.negative = t.negative := by
    rw [Bool.eq_iff_iff, ← minus_mem_front, ← minus_mem_front, hfront]
  unfold front at hfront
  rw [hnegative] at hfront
  exact ShownTime.ext hnegative (List.append_cancel_left hfront) (List.append_cancel_right hbehind)

/-- The time of a sign and a number of thousandths. -/
def ofThousandths (negative : Bool) (n : ℕ) : ShownTime where
  negative := negative
  whole := decimal (n / 10 ^ 3)
  fraction := decimals 3 n
  isDigit_of_mem_whole _ := isDigit_of_mem_decimal
  whole_ne_nil := decimal_ne_nil _
  eq_nil_of_whole_eq rest h := by
    rcases Nat.eq_zero_or_pos (n / 10 ^ 3) with hzero | hpos
    · rw [hzero] at h
      exact (List.cons.inj h).2.symm
    · exact absurd h (decimal_ne_zero_cons hpos rest)
  isDigit_of_mem_fraction _ := isDigit_of_mem_decimals
  length_fraction := length_decimals (by decide) n

theorem text_ofThousandths (negative : Bool) (n : ℕ) :
    (ofThousandths negative n).text
      = (if negative then ['-'] else []) ++ fixedPoint 3 n ++ " us".toList := by
  show (if negative then ['-'] else []) ++ decimal (n / 10 ^ 3) ++
    '.' :: (decimals 3 n ++ " us".toList) = _
  rw [fixedPoint, decimals]
  simp only [List.append_assoc, List.cons_append]

theorem thousandths_ofThousandths (negative : Bool) (n : ℕ) :
    (ofThousandths negative n).thousandths = n :=
  ofDecimal_fixedPoint (by decide) n

end ShownTime

/-- **The number that a text shows**, in microseconds. -/
def Shows (text : List Char) (x : WithBotTop ℚ) : Prop :=
  (∃ t : ShownTime, t.text = text ∧ (t.number : WithBotTop ℚ) = x)
    ∨ text = "inf us".toList ∧ x = ⊤

/-- **A text shows one number at most.** -/
theorem Shows.unique {text : List Char} {x y : WithBotTop ℚ} (hx : Shows text x)
    (hy : Shows text y) : x = y := by
  have hinf : ∀ t : ShownTime, t.text ≠ "inf us".toList := by
    intro t heq
    have hpoint : '.' ∈ t.text := List.mem_append_right _ List.mem_cons_self
    rw [heq] at hpoint
    revert hpoint
    decide
  rcases hx with ⟨s, hs, rfl⟩ | ⟨hs, rfl⟩ <;> rcases hy with ⟨t, ht, rfl⟩ | ⟨ht, rfl⟩
  · rw [ShownTime.text_injective (hs.trans ht.symm)]
  · exact absurd (hs.trans ht) (hinf s)
  · exact absurd (ht.trans hs) (hinf t)
  · rfl

/-- A text that shows a number shows that one and no other. -/
theorem Shows.iff_eq {text : List Char} {x y : WithBotTop ℚ} (h : Shows text x) :
    Shows text y ↔ y = x :=
  ⟨fun hy => hy.unique h, fun heq => heq ▸ h⟩

namespace Rtt

variable {rtt : Rtt}

/-- What is no sample is shown as a word of its own. -/
theorem text_eq_unavailable_iff : rtt.text = unavailable ↔ rtt.isSample = false := by
  refine ⟨fun h => Bool.eq_false_iff.mpr fun hsample => ?_, text_of_not_isSample⟩
  rw [text_of_isSample hsample] at h
  have hunit : 's' ∈ unavailable := h ▸ List.mem_append_right _ (by decide)
  exact absurd hunit (by decide)

/-- **What is not available** is a NaN or a number below zero. -/
theorem text_eq_unavailable_iff_value? :
    rtt.text = unavailable
      ↔ rtt.value? = none ∨ ∃ v : WithBotTop ℚ, rtt.value? = some v ∧ v < 0 := by
  rw [text_eq_unavailable_iff, ← Bool.not_eq_true, isSample_iff_nonneg]
  cases rtt.value? with
  | none => simp
  | some v => simp

/-- The time that is shown of a number that is finite. -/
def shownTime (rtt : Rtt) : ShownTime := .ofThousandths rtt.negative rtt.thousandths

/-- **Its digits denote the nearest integer** to a thousand times the size. -/
theorem isNearestEven_thousandths (rtt : Rtt) :
    IsNearestEven (1000 * rtt.size) rtt.shownTime.thousandths := by
  have hscale : 0 < 2 ^ Format.single.scale := Nat.two_pow_pos _
  have hnearest := isNearestEven_roundDiv (n := 1000 * Format.single.units rtt.magnitude) hscale
  rw [Nat.cast_mul, mul_div_assoc, ← size_eq] at hnearest
  rw [shownTime, ShownTime.thousandths_ofThousandths]
  exact hnearest

section Sample

variable {v : WithBotTop ℚ} (hvalue : rtt.value? = some v) (hnonneg : 0 ≤ v)
include hvalue hnonneg

/-- A number that is at least zero has a sign only where it is zero. -/
theorem magnitude_eq_zero_of_negative (hnegative : rtt.negative = true) : rtt.magnitude = 0 :=
  (isSample_iff.mp (isSample_iff_nonneg.mpr ⟨v, hvalue, hnonneg⟩)).2 hnegative

/-- **The one sign that is shown** is that of the negative zero. -/
theorem negative_iff_bits_eq : rtt.shownTime.negative = true ↔ rtt.bits = 0x80000000 := by
  refine ⟨fun (hnegative : rtt.negative = true) => ?_, fun hbits => ?_⟩
  · have hbits := rtt.toNat_bits
    rw [magnitude_eq_zero_of_negative hvalue hnonneg hnegative, if_pos hnegative] at hbits
    exact UInt32.toNat_inj.mp hbits
  · show rtt.negative = true
    rw [negative, hbits]
    rfl

/-- So the sign does not change the number. -/
theorem number_shownTime : rtt.shownTime.number = rtt.shownTime.thousandths / 1000 := by
  unfold ShownTime.number
  split
  case isFalse => rfl
  case isTrue hnegative =>
    have hzero : rtt.shownTime.thousandths = 0 := by
      rw [shownTime, ShownTime.thousandths_ofThousandths, thousandths,
        magnitude_eq_zero_of_negative hvalue hnonneg hnegative]
      rfl
    rw [hzero, Nat.cast_zero, zero_div, neg_zero]

/-- **What is shown of a number that is at least zero.** -/
theorem text_of_nonneg :
    v = rtt.size ∧ rtt.text = rtt.shownTime.text ∨ v = ⊤ ∧ rtt.text = "inf us".toList := by
  have hsample : rtt.isSample = true := isSample_iff_nonneg.mpr ⟨v, hvalue, hnonneg⟩
  have hzero := magnitude_eq_zero_of_negative hvalue hnonneg
  rw [text_of_isSample hsample, numeral]
  rcases (isSample_iff.mp hsample).1.lt_or_eq with hfinite | hinfinite
  · rw [value?_of_finite hfinite] at hvalue
    refine Or.inl ⟨(Option.some.inj hvalue).symm.trans (congrArg _ ?_), ?_⟩
    · cases hnegative : rtt.negative with
      | false => rfl
      | true => rw [if_pos rfl, size_eq_zero_iff.mpr (hzero hnegative), neg_zero]
    · rw [if_neg hfinite.ne, shownTime, ShownTime.text_ofThousandths]
  · rw [value?_of_infinite hinfinite] at hvalue
    refine Or.inr ⟨(Option.some.inj hvalue).symm.trans (if_neg fun hnegative => ?_), ?_⟩
    · rw [hzero hnegative] at hinfinite
      exact absurd hinfinite (by decide)
    · rw [if_pos hinfinite]
      rfl

/-- **The number that is shown** is infinity, or as many thousandths as the integer nearest to a
thousand times what it is shown for. -/
theorem exists_shows :
    v = ⊤ ∧ Shows rtt.text ⊤
      ∨ ∃ (x : ℚ) (n : ℤ), v = x ∧ IsNearestEven (1000 * x) n
          ∧ Shows rtt.text ((n / 1000 : ℚ) : WithBotTop ℚ) := by
  rcases text_of_nonneg hvalue hnonneg with ⟨hsize, htext⟩ | ⟨htop, htext⟩
  · exact Or.inr ⟨_, _, hsize, rtt.isNearestEven_thousandths,
      Or.inl ⟨_, htext.symm, congrArg _ (number_shownTime hvalue hnonneg)⟩⟩
  · exact Or.inl ⟨htop, Or.inr ⟨htext, rfl⟩⟩

end Sample

/-- **Numbers are shown in their order.** -/
theorem exists_shows_le {other : Rtt} {v w : WithBotTop ℚ} (hv : rtt.value? = some v)
    (hw : other.value? = some w) (hzero : 0 ≤ v) (hle : v ≤ w) :
    ∃ x y : WithBotTop ℚ, Shows rtt.text x ∧ Shows other.text y ∧ x ≤ y := by
  rcases exists_shows hw (hzero.trans hle) with ⟨-, hother⟩ | ⟨y, n, rfl, hn, hother⟩
  · rcases exists_shows hv hzero with ⟨-, hrtt⟩ | ⟨x, m, -, -, hrtt⟩
    · exact ⟨_, _, hrtt, hother, le_rfl⟩
    · exact ⟨_, _, hrtt, hother, le_top⟩
  · rcases exists_shows hv hzero with ⟨rfl, -⟩ | ⟨x, m, rfl, hm, hrtt⟩
    · exact absurd (top_le_iff.mp hle) (WithBotTop.coe_ne_top y)
    · have hxy : 1000 * x ≤ 1000 * y :=
        mul_le_mul_of_nonneg_left (WithBotTop.coe_le_coe.mp hle) (by norm_num)
      have hmn : (m : ℚ) ≤ n := Int.cast_le.mpr (hm.mono hn hxy)
      refine ⟨_, _, hrtt, hother, WithBotTop.coe_le_coe.mpr ?_⟩
      exact div_le_div_of_nonneg_right hmn (by norm_num)

/-- **Round-trip times are shown correctly rounded.** -/
theorem text_correctly_rounded (rtt : Rtt) :
    (rtt.text = "n/a".toList
        ↔ rtt.value? = none ∨ ∃ v : WithBotTop ℚ, rtt.value? = some v ∧ v < 0)
      ∧ (∀ v : ℚ, rtt.value? = some (v : WithBotTop ℚ) → 0 ≤ v →
          ∃ t : ShownTime, rtt.text = t.text ∧ IsNearestEven (1000 * v) t.thousandths
            ∧ (t.negative = true ↔ rtt.bits = 0x80000000))
      ∧ (rtt.value? = some ⊤ → rtt.text = "inf us".toList)
      ∧ ∀ (other : Rtt) (v w : WithBotTop ℚ), rtt.value? = some v → other.value? = some w →
          0 ≤ v → v ≤ w →
          ∃ x y : WithBotTop ℚ, (∀ z, Shows rtt.text z ↔ z = x)
            ∧ (∀ z, Shows other.text z ↔ z = y) ∧ x ≤ y := by
  refine ⟨text_eq_unavailable_iff_value?, fun v hv hzero => ?_, fun hv => ?_, ?_⟩
  · have hzero' : (0 : WithBotTop ℚ) ≤ v := WithBotTop.coe_le_coe.mpr hzero
    obtain ⟨hsize, htext⟩ :=
      (text_of_nonneg hv hzero').resolve_right fun h => WithBotTop.coe_ne_top v h.1
    obtain rfl : v = rtt.size := WithBotTop.coe_injective hsize
    exact ⟨rtt.shownTime, htext, rtt.isNearestEven_thousandths, negative_iff_bits_eq hv hzero'⟩
  · refine ((text_of_nonneg hv le_top).resolve_left fun h => ?_).2
    exact WithBotTop.coe_ne_top _ h.1.symm
  · intro other v w hv hw hzero hle
    obtain ⟨x, y, hx, hy, hxy⟩ := exists_shows_le hv hw hzero hle
    exact ⟨x, y, fun z => hx.iff_eq, fun z => hy.iff_eq, hxy⟩

/-- One sixteenth is 62.5 thousandths, which is as near to 62 as it is to 63. It is shown as the
even one, and below infinity. -/
theorem text_correctly_rounded_of_sixteenth :
    value? ⟨0x3D800000⟩ = some ((1 / 16 : ℚ) : WithBotTop ℚ)
      ∧ text ⟨0x3D800000⟩ = "0.062 us".toList
      ∧ IsNearestEven (1000 * (1 / 16)) 62
      ∧ value? ⟨0x7F800000⟩ = some ⊤
      ∧ text ⟨0x7F800000⟩ = "inf us".toList
      ∧ ∃ x y : WithBotTop ℚ, Shows "0.062 us".toList x ∧ Shows "inf us".toList y ∧ x ≤ y := by
  have hvalue : value? ⟨0x3D800000⟩ = some ((1 / 16 : ℚ) : WithBotTop ℚ) := by decide +kernel
  have htext : text ⟨0x3D800000⟩ = "0.062 us".toList := by decide +kernel
  have hinfinite : value? ⟨0x7F800000⟩ = some ⊤ := by decide +kernel
  have hzero : (0 : WithBotTop ℚ) ≤ ((1 / 16 : ℚ) : WithBotTop ℚ) := by decide +kernel
  obtain ⟨-, hfinite, -, hordered⟩ := text_correctly_rounded ⟨0x3D800000⟩
  obtain ⟨-, -, hinf, -⟩ := text_correctly_rounded ⟨0x7F800000⟩
  obtain ⟨t, ht, hnearest, -⟩ := hfinite (1 / 16) hvalue (by norm_num)
  obtain ⟨x, y, hx, hy, hxy⟩ := hordered ⟨0x7F800000⟩ _ _ hvalue hinfinite hzero le_top
  have ht' : t = ShownTime.ofThousandths false 62 :=
    ShownTime.text_injective (ht.symm.trans (htext.trans (by decide +kernel)))
  rw [ht', ShownTime.thousandths_ofThousandths] at hnearest
  rw [htext] at hx
  rw [hinf hinfinite] at hy
  exact ⟨hvalue, htext, hnearest, hinfinite, hinf hinfinite, x, y, (hx x).mpr rfl,
    (hy y).mpr rfl, hxy⟩

end Rtt

end PeerTelemetry
