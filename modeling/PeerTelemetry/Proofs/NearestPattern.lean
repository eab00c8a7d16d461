import Mathlib.Algebra.Order.Ring.Abs
import Mathlib.Order.Monotone.Basic
import PeerTelemetry.Proofs.ShownTimes

/-!
# The nearest number of a format

A fraction is rounded into a binary format by two computations, an exponent and a rounded
quotient, and a comparison with infinity behind them. What comes of them is said
without any of the three: **no number of the format is nearer to the fraction, and
where another one is as near the pattern is even** (`Format.IsNearest`).

The rounded quotient is nearest among the multiples of one spacing only, that of the binade
the fraction lies in. The numbers of the higher binades are such multiples too. Those of the lower
binades need not be, but then they lie below the whole binade, and its lower end is nearer
to the fraction than they are (`Format.dvd_units_or_units_lt`). Infinity takes part as the number
that would come next; whatever rounds beyond it has it as the nearest of those that are
left.

For round-trip times the same is said of the numbers that their bits stand for, signs, overflow and
underflow included (`Rtt.IsNearest`).
-/

namespace PeerTelemetry

-- Powers of numbers are the core library's own, whatever algebra is loaded besides.
attribute [local instance (high)] instPowNat

namespace IsNearestEven

variable {x t : ℚ} {m n : ℕ}

theorem abs_sub_mul (ht : 0 < t) (x : ℚ) (m : ℕ) : |x - m * t| = |x / t - (m : ℤ)| * t := by
  rw [← abs_of_pos ht, ← abs_mul, abs_of_pos ht, sub_mul, div_mul_cancel₀ x ht.ne',
    Int.cast_natCast]

/-- The nearest integer to a quotient gives the nearest multiple of the divisor. -/
theorem abs_sub_mul_le (h : IsNearestEven (x / t) n) (ht : 0 < t) (m : ℕ) :
    |x - n * t| ≤ |x - m * t| := by
  rw [abs_sub_mul ht, abs_sub_mul ht]
  exact mul_le_mul_of_nonneg_right (h.abs_sub_le_abs_sub m) ht.le

theorem even_of_abs_sub_mul_eq (h : IsNearestEven (x / t) n) (ht : 0 < t) (hm : m ≠ n)
    (htie : |x - m * t| = |x - n * t|) : Even n := by
  rw [abs_sub_mul ht, abs_sub_mul ht] at htie
  refine (Int.even_coe_nat n).mp (h.even_of_tie m ?_ (mul_right_cancel₀ ht.ne' htie))
  exact fun heq => hm (Int.natCast_inj.mp heq)

end IsNearestEven

namespace Format

variable (f : Format)

/-! ## The order of the patterns -/

/-- **Patterns come in the order of their numbers.** -/
theorem units_strictMono : StrictMono f.units := by
  refine strictMono_nat_of_lt_succ fun pattern => ?_
  obtain ⟨k, m, rfl, hm, hk⟩ := f.exists_significand pattern
  rw [Nat.add_assoc, f.units_add hm.le hk, f.units_add hm (hk.imp_right Nat.le_succ_of_le)]
  exact Nat.mul_lt_mul_of_pos_right m.lt_succ_self (Nat.two_pow_pos k)

/-- **A number is a multiple of a spacing or lies below all binades of that spacing.** -/
theorem dvd_units_or_units_lt (k pattern : ℕ) :
    2 ^ k ∣ f.units pattern ∨ f.units pattern < 2 ^ (f.fractionBits + k) := by
  obtain ⟨j, m, rfl, hm, hj⟩ := f.exists_significand pattern
  rw [f.units_add hm.le hj]
  rcases Nat.lt_or_ge j k with hjk | hkj
  · refine Or.inr ?_
    calc m * 2 ^ j
        < 2 * 2 ^ f.fractionBits * 2 ^ j := Nat.mul_lt_mul_of_pos_right hm (Nat.two_pow_pos j)
      _ = 2 ^ (f.fractionBits + j + 1) := (f.two_pow_binade_end j).symm
      _ ≤ 2 ^ (f.fractionBits + k) := Nat.pow_le_pow_right (by decide) (by omega)
  · exact Or.inl ((Nat.pow_dvd_pow 2 hkj).mul_left m)

/-! ## What the nearest pattern is -/

/-- **The nearest pattern to a number** that is counted in units of the least positive number, a
tie going to the even one. Infinity is in the place where the next number would be. -/
structure IsNearest (y : ℚ) (pattern : ℕ) : Prop where
  le_infinity : pattern ≤ f.infinity
  /-- No number of the format is nearer. -/
  abs_sub_le_abs_sub : ∀ other ≤ f.infinity, |y - f.units pattern| ≤ |y - f.units other|
  /-- Where another number is as near, this pattern is even. -/
  even_of_tie : ∀ other ≤ f.infinity, other ≠ pattern →
    |y - f.units other| = |y - f.units pattern| → Even pattern

/-- **What is nearest among the multiples of a spacing** is nearest among all numbers, where the
fraction does not lie below the binades of that spacing. There is no end to the exponents
here. -/
theorem abs_sub_units_le {y : ℚ} {k m : ℕ} (hm : IsNearestEven (y / 2 ^ k) m)
    (hlow : k = 0 ∨ (2 ^ (f.fractionBits + k) : ℕ) ≤ y) (other : ℕ) :
    |y - (m * 2 ^ k : ℕ)| ≤ |y - f.units other|
      ∧ (f.units other ≠ m * 2 ^ k → |y - f.units other| = |y - (m * 2 ^ k : ℕ)| → Even m) := by
  have hspacing : (0 : ℚ) < 2 ^ k := pow_pos two_pos k
  have hcast : ∀ j : ℕ, ((j * 2 ^ k : ℕ) : ℚ) = j * 2 ^ k := fun j => by push_cast; rfl
  rw [hcast]
  by_cases hgrid : 2 ^ k ∣ f.units other
  · obtain ⟨j, hj⟩ := hgrid
    rw [hj, Nat.mul_comm, hcast]
    exact ⟨hm.abs_sub_mul_le hspacing j,
      fun hne => hm.even_of_abs_sub_mul_eq hspacing fun heq => hne (heq ▸ rfl)⟩
  · -- The lower end of the binade lies between the other number and the fraction.
    have hk : k ≠ 0 := fun hzero => hgrid (hzero ▸ one_dvd _)
    have hbelow : (f.units other : ℚ) < (2 ^ (f.fractionBits + k) : ℕ) :=
      Nat.cast_lt.mpr ((f.dvd_units_or_units_lt k other).resolve_left hgrid)
    have hend := hlow.resolve_left hk
    have hend' : ((2 ^ f.fractionBits : ℕ) : ℚ) * 2 ^ k = (2 ^ (f.fractionBits + k) : ℕ) := by
      rw [Nat.pow_add, hcast]
    have hfar : |y - (2 ^ f.fractionBits : ℕ) * 2 ^ k| < |y - f.units other| := by
      rw [hend', abs_of_nonneg (sub_nonneg.mpr hend),
        abs_of_pos (sub_pos.mpr (hbelow.trans_le hend))]
      exact sub_lt_sub_left hbelow y
    have hlt := (hm.abs_sub_mul_le hspacing _).trans_lt hfar
    exact ⟨hlt.le, fun _ htie => absurd htie hlt.ne'⟩

variable {f} {y : ℚ}

/-- **From infinity on** there is nothing nearer than infinity. -/
theorem isNearest_infinity (h : (f.units f.infinity : ℚ) ≤ y) : f.IsNearest y f.infinity := by
  have hdist : ∀ other ≤ f.infinity, |y - f.units other| = y - f.units other := fun other hle =>
    abs_of_nonneg (sub_nonneg.mpr
      ((Nat.cast_le.mpr (f.units_strictMono.monotone hle)).trans h))
  refine ⟨le_rfl, fun other hle => ?_, fun other hle hne htie => ?_⟩
  · rw [hdist _ le_rfl, hdist other hle]
    exact sub_le_sub_left (Nat.cast_le.mpr (f.units_strictMono.monotone hle)) y
  · rw [hdist _ le_rfl, hdist other hle, sub_right_inj, Nat.cast_inj] at htie
    exact absurd (f.units_strictMono.injective htie) hne

/-- **The pattern that is found is the nearest pattern.** -/
theorem isNearest_nearest (hf : 0 < f.fractionBits) {n d : ℕ} (hd : 0 < d) :
    f.IsNearest ((n * 2 ^ f.scale : ℕ) / d) (f.nearest n d) := by
  set k := f.exponentOf n d
  set m := f.significandOf n d
  set y : ℚ := (n * 2 ^ f.scale : ℕ) / d
  have hm : IsNearestEven (y / 2 ^ k) m := by
    have hround := isNearestEven_roundDiv (n := n * 2 ^ f.scale)
      (Nat.mul_pos hd (Nat.two_pow_pos k))
    rwa [Nat.cast_mul d, Nat.cast_pow, Nat.cast_two, ← div_div] at hround
  have hlow : k = 0 ∨ ((2 ^ (f.fractionBits + k) : ℕ) : ℚ) ≤ y := by
    refine (Nat.eq_zero_or_pos k).imp_right fun hpos => ?_
    rw [le_div_iff₀ (Nat.cast_pos.mpr hd), ← Nat.cast_mul, Nat.cast_le]
    exact f.two_pow_le_of_exponentOf_pos hd hpos
  have hunits : f.units (k * 2 ^ f.fractionBits + m) = m * 2 ^ k :=
    f.units_add (f.significandOf_le hd) (f.le_significandOf hd)
  have hall := f.abs_sub_units_le hm hlow
  rw [← hunits] at hall
  rcases le_or_gt (k * 2 ^ f.fractionBits + m) f.infinity with hfinite | hoverflow
  · rw [f.nearest_eq_min, Nat.min_eq_left hfinite]
    refine ⟨hfinite, fun other _ => (hall other).1, fun other _ hne htie => ?_⟩
    have heven : Even m := (hall other).2 (fun heq => hne (f.units_strictMono.injective heq)) htie
    exact ((Nat.even_pow.mpr ⟨even_two, hf.ne'⟩).mul_left k).add heven
  · -- Infinity is nearer to what is nearest than any number below it.
    rw [f.nearest_eq_min, Nat.min_eq_right hoverflow.le]
    refine isNearest_infinity ?_
    by_contra! hlt
    have hfar : (f.units f.infinity : ℚ) < f.units (k * 2 ^ f.fractionBits + m) :=
      Nat.cast_lt.mpr (f.units_strictMono hoverflow)
    have hle := (hall f.infinity).1
    rw [abs_of_neg (sub_neg.mpr (hlt.trans hfar)), abs_of_neg (sub_neg.mpr hlt)] at hle
    linarith

/-- **Up to half of the least positive number** there is nothing nearer than zero. -/
theorem isNearest_zero (hlow : 0 ≤ y) (hhigh : 2 * y ≤ 1) : f.IsNearest y 0 := by
  have hzero : f.units 0 = 0 := by
    simpa using f.units_add (k := 0) (m := 0) (Nat.zero_le _) (Or.inl rfl)
  refine ⟨Nat.zero_le _, fun other _ => ?_, fun _ _ _ _ => ⟨0, rfl⟩⟩
  rcases Nat.eq_zero_or_pos other with rfl | hpos
  · exact le_rfl
  · have hone : (1 : ℚ) ≤ f.units other :=
      Nat.one_le_cast.mpr (Nat.pos_of_ne_zero fun h => hpos.ne'
        (f.units_strictMono.injective (h.trans hzero.symm)))
    rw [hzero, Nat.cast_zero, sub_zero, abs_of_nonneg hlow, abs_sub_comm]
    exact le_abs.mpr (Or.inl (by linarith))

namespace IsNearest

variable {pattern p : ℕ} (h : f.IsNearest y pattern) (hp : p + 1 ≤ f.infinity)
include h hp

/-- **A nearest pattern lies on its side of the middle** of any two that follow each other, and in
the middle it is even: here where it is not above the first. -/
theorem two_mul_le (hle : pattern ≤ p) :
    2 * y ≤ f.units p + f.units (p + 1)
      ∧ (2 * y = f.units p + f.units (p + 1) → Even p) := by
  have hlast : (f.units pattern : ℚ) ≤ f.units p :=
    Nat.cast_le.mpr (f.units_strictMono.monotone hle)
  have hnext : (f.units p : ℚ) < f.units (p + 1) :=
    Nat.cast_lt.mpr (f.units_strictMono p.lt_succ_self)
  have hnear := sq_le_sq.mpr (h.abs_sub_le_abs_sub (p + 1) hp)
  have hmiddle : 2 * y ≤ f.units pattern + f.units (p + 1) := by
    refine le_of_mul_le_mul_right ?_ (sub_pos.mpr (hlast.trans_lt hnext))
    linarith
  refine ⟨by linarith, fun htie => ?_⟩
  have hvalue : (f.units pattern : ℚ) = f.units p := by linarith
  obtain rfl : pattern = p := f.units_strictMono.injective (Nat.cast_inj.mp hvalue)
  refine h.even_of_tie (pattern + 1) hp (Nat.succ_ne_self _) ?_
  rw [← abs_neg]
  congr 1
  linarith

/-- And here where it is above the first. -/
theorem le_two_mul (hlt : p < pattern) :
    (f.units p + f.units (p + 1) : ℚ) ≤ 2 * y
      ∧ (2 * y = f.units p + f.units (p + 1) → Even (p + 1)) := by
  have hfirst : (f.units (p + 1) : ℚ) ≤ f.units pattern :=
    Nat.cast_le.mpr (f.units_strictMono.monotone hlt)
  have hnext : (f.units p : ℚ) < f.units (p + 1) :=
    Nat.cast_lt.mpr (f.units_strictMono p.lt_succ_self)
  have hnear := sq_le_sq.mpr (h.abs_sub_le_abs_sub p (Nat.le_of_succ_le hp))
  have hmiddle : (f.units p + f.units pattern : ℚ) ≤ 2 * y := by
    refine le_of_mul_le_mul_right ?_ (sub_pos.mpr (hnext.trans_le hfirst))
    linarith
  refine ⟨by linarith, fun htie => ?_⟩
  have hvalue : (f.units pattern : ℚ) = f.units (p + 1) := by linarith
  obtain rfl : pattern = p + 1 := f.units_strictMono.injective (Nat.cast_inj.mp hvalue)
  refine h.even_of_tie p (Nat.le_of_succ_le hp) (Nat.succ_ne_self _).symm ?_
  rw [← abs_neg]
  congr 1
  linarith

end IsNearest

end Format

/-! ## Round-trip times -/

/-- A number from its sign and its size. -/
def signed (negative : Bool) (x : ℚ) : ℚ := if negative then -x else x

theorem abs_signed_sub_signed (negative : Bool) (x y : ℚ) :
    |signed negative x - signed negative y| = |x - y| := by
  cases negative with
  | false => rfl
  | true =>
    show |-x - -y| = |x - y|
    rw [neg_sub_neg, abs_sub_comm]

theorem signed_of_ne {negative negative' : Bool} (h : negative' ≠ negative) (x : ℚ) :
    signed negative' x = signed negative (-x) := by
  rw [Bool.eq_not_of_ne h]
  cases negative with
  | false => rfl
  | true => exact (neg_neg x).symm

/-- Two numbers are nearer to each other with the same sign than with any. -/
theorem abs_sub_le_abs_signed_sub {x y : ℚ} (hx : 0 ≤ x) (hy : 0 ≤ y) (negative negative' : Bool) :
    |x - y| ≤ |signed negative x - signed negative' y| := by
  have hsum : |x - y| ≤ x + y := abs_le.mpr ⟨by linarith, by linarith⟩
  by_cases hsame : negative' = negative
  · rw [hsame, abs_signed_sub_signed]
  · rw [signed_of_ne hsame, abs_signed_sub_signed, sub_neg_eq_add]
    exact hsum.trans (le_abs_self _)

namespace Rtt

/-- **The number nearest to a rational number**, which is given by its sign and its size. -/
structure IsNearest (negative : Bool) (x : ℚ) (rtt : Rtt) : Prop where
  /-- The sign is kept, also that of a zero and of an infinity. -/
  negative_eq : rtt.negative = negative
  /-- Short of half a spacing beyond the largest number, a number is taken. None is nearer, and
  where another is as near the pattern is even. -/
  exists_value? : x < 2 ^ 128 - 2 ^ 103 → ∃ u : ℚ, rtt.value? = some (u : WithBotTop ℚ)
    ∧ ∀ (other : Rtt) (w : ℚ), other.value? = some (w : WithBotTop ℚ) →
      |signed negative x - u| ≤ |signed negative x - w|
        ∧ (w ≠ u → |signed negative x - w| = |signed negative x - u| → Even rtt.bits.toNat)
  /-- From there on it is infinity. -/
  value?_of_overflow : 2 ^ 128 - 2 ^ 103 ≤ x → rtt.value? = some (if negative then ⊥ else ⊤)
  /-- Up to half of the least positive number it is zero. -/
  value?_of_underflow : x ≤ 2 ^ (-150 : ℤ) → rtt.value? = some (0 : WithBotTop ℚ)

variable {rtt : Rtt}

/-- What is a number has it from its sign and its size. -/
theorem eq_signed_of_value? {w : ℚ} (h : rtt.value? = some (w : WithBotTop ℚ)) :
    rtt.magnitude < Format.single.infinity ∧ w = signed rtt.negative rtt.size := by
  rcases Nat.lt_trichotomy rtt.magnitude Format.single.infinity with hfinite | hinfinite | hnan
  · rw [value?_of_finite hfinite, Option.some.injEq] at h
    exact ⟨hfinite, (WithBotTop.coe_injective h).symm⟩
  · rw [value?_of_infinite hinfinite, Option.some.injEq] at h
    split at h
    · exact absurd h.symm (WithBotTop.coe_ne_bot w)
    · exact absurd h.symm (WithBotTop.coe_ne_top w)
  · rw [value?_of_isNaN hnan] at h
    cases h

/-- The largest number and infinity have their middle half a spacing beyond the largest number. -/
theorem units_largest_add_units_infinity :
    (Format.single.units 0x7F7FFFFF + Format.single.units (0x7F7FFFFF + 1) : ℚ)
      = 2 * ((2 ^ 128 - 2 ^ 103) * (2 ^ Format.single.scale : ℕ)) := by
  have hlargest : Format.single.units 0x7F7FFFFF = (2 ^ 24 - 1) * 2 ^ 253 := by decide
  have hinfinity : Format.single.units (0x7F7FFFFF + 1) = 2 ^ 24 * 2 ^ 253 := by decide
  rw [hlargest, hinfinity, Format.scale_single]
  norm_num

section OfParts

variable {negative : Bool} {x : ℚ} {pattern : ℕ} (hx : 0 ≤ x)
  (h : Format.single.IsNearest (x * (2 ^ Format.single.scale : ℕ)) pattern)

section

include h

theorem lt_infinity_of_lt (hlt : x < 2 ^ 128 - 2 ^ 103) : pattern < Format.single.infinity := by
  refine lt_of_le_of_ne h.le_infinity fun heq => ?_
  have hmiddle := (h.le_two_mul (p := 0x7F7FFFFF) (by decide) (by rw [heq]; decide)).1
  rw [units_largest_add_units_infinity] at hmiddle
  have hscale : (0 : ℚ) < (2 ^ Format.single.scale : ℕ) := Nat.cast_pos.mpr (Nat.two_pow_pos _)
  have hle := le_of_mul_le_mul_right (le_of_mul_le_mul_left hmiddle two_pos) hscale
  exact absurd hle (not_le.mpr hlt)

theorem eq_infinity_of_le (hle : 2 ^ 128 - 2 ^ 103 ≤ x) : pattern = Format.single.infinity := by
  refine h.le_infinity.antisymm (not_lt.mp fun hlt => ?_)
  obtain ⟨hmiddle, heven⟩ := h.two_mul_le (p := 0x7F7FFFFF) (by decide) (Nat.le_of_lt_succ hlt)
  rw [units_largest_add_units_infinity] at hmiddle heven
  have hscale := mul_le_mul_of_nonneg_right hle
    (Nat.cast_nonneg (α := ℚ) (2 ^ Format.single.scale : ℕ))
  exact absurd (heven (hmiddle.antisymm (mul_le_mul_of_nonneg_left hscale two_pos.le))) (by decide)

theorem eq_zero_of_le (hle : x ≤ 2 ^ (-150 : ℤ)) : pattern = 0 := by
  refine Nat.eq_zero_of_not_pos fun hpos => ?_
  obtain ⟨hmiddle, heven⟩ := h.le_two_mul (p := 0) (by decide) hpos
  have hunits : (Format.single.units 0 + Format.single.units (0 + 1) : ℚ) = 1 := by
    rw [show Format.single.units 0 = 0 by decide, show Format.single.units (0 + 1) = 1 by decide]
    norm_num
  have hhalf : 2 * (x * (2 ^ Format.single.scale : ℕ)) ≤ 1 := by
    calc 2 * (x * (2 ^ Format.single.scale : ℕ))
        ≤ 2 * (2 ^ (-150 : ℤ) * (2 ^ Format.single.scale : ℕ)) := by gcongr
      _ = 1 := by
        rw [Format.scale_single]
        norm_num
  rw [hunits] at hmiddle heven
  exact absurd (heven (hhalf.antisymm hmiddle)) (by decide)

end

include h

/-- **The nearest pattern has the nearest size**, a tie going to the even pattern. -/
theorem abs_sub_size_le {rtt other : Rtt} (hrtt : rtt.magnitude = pattern)
    (hother : other.magnitude ≤ Format.single.infinity) :
    |x - rtt.size| ≤ |x - other.size|
      ∧ (other.size ≠ rtt.size → |x - other.size| = |x - rtt.size| → Even pattern) := by
  have hscale : (0 : ℚ) < (2 ^ Format.single.scale : ℕ) := Nat.cast_pos.mpr (Nat.two_pow_pos _)
  have hunits : ∀ rtt : Rtt,
      |x * (2 ^ Format.single.scale : ℕ) - Format.single.units rtt.magnitude|
        = |x - rtt.size| * (2 ^ Format.single.scale : ℕ) := fun rtt => by
    rw [size_eq, ← abs_of_pos hscale, ← abs_mul, abs_of_pos hscale, sub_mul,
      div_mul_cancel₀ _ hscale.ne']
  have hle := h.abs_sub_le_abs_sub other.magnitude hother
  have heven := h.even_of_tie other.magnitude hother
  rw [← hrtt, hunits, hunits] at hle heven
  refine ⟨le_of_mul_le_mul_right hle hscale, fun hne htie => ?_⟩
  rw [← hrtt]
  exact heven (fun heq => hne (by rw [size_eq, size_eq, heq])) (by rw [htie])

include hx

/-- Only zero is as near with the other sign as it is with its own. -/
theorem size_eq_zero_of_tie {rtt : Rtt} (hrtt : rtt.magnitude = pattern)
    (htie : |x - -rtt.size| = |x - rtt.size|) : rtt.size = 0 := by
  have hzero : size ⟨0⟩ = 0 := size_eq_zero_iff.mpr (by decide)
  have hfinite : magnitude ⟨0⟩ ≤ Format.single.infinity := by decide
  have hle := (abs_sub_size_le h hrtt hfinite).1
  have hsize := rtt.size_nonneg
  rw [hzero, sub_zero, abs_of_nonneg hx] at hle
  rw [sub_neg_eq_add, abs_of_nonneg (add_nonneg hx hsize)] at htie
  linarith

/-- **The nearest pattern gives the nearest number.** -/
theorem isNearest_ofParts : (ofParts negative pattern).IsNearest negative x := by
  set rtt := ofParts negative pattern
  have hnegative : rtt.negative = negative := negative_ofParts negative h.le_infinity
  have hmagnitude : rtt.magnitude = pattern := magnitude_ofParts negative h.le_infinity
  refine ⟨hnegative, fun hlt => ?_, fun hle => ?_, fun hle => ?_⟩
  · have hfinite := hmagnitude.trans_lt (lt_infinity_of_lt h hlt)
    refine ⟨signed negative rtt.size, ?_, fun other w hw => ?_⟩
    · rw [value?_of_finite hfinite, hnegative]
      rfl
    obtain ⟨hother, rfl⟩ := eq_signed_of_value? hw
    obtain ⟨hnear, heven⟩ := abs_sub_size_le h hmagnitude hother.le
    have hsign := abs_sub_le_abs_signed_sub hx other.size_nonneg negative other.negative
    rw [abs_signed_sub_signed]
    refine ⟨hnear.trans hsign, fun hne htie => ?_⟩
    have hpattern : Even pattern := by
      refine heven (fun hsize => hne ?_) (le_antisymm (htie ▸ hsign) hnear)
      rw [hsize] at htie ⊢
      by_cases hsame : other.negative = negative
      · rw [hsame]
      · rw [signed_of_ne hsame] at htie ⊢
        rw [abs_signed_sub_signed] at htie
        rw [size_eq_zero_of_tie hx h hmagnitude htie, neg_zero]
    rw [toNat_bits, hmagnitude, Format.signBit_single]
    exact Even.add (by split <;> decide) hpattern
  · rw [value?_of_infinite (hmagnitude.trans (eq_infinity_of_le h hle)), hnegative]
  · have hzero : rtt.magnitude = 0 := hmagnitude.trans (eq_zero_of_le h hle)
    rw [value?_of_finite (by rw [hzero]; decide), size_eq_zero_iff.mpr hzero, neg_zero, ite_self]
    rfl

end OfParts

end Rtt

end PeerTelemetry
