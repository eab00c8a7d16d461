import Mathlib.Algebra.Order.Field.Basic
import Mathlib.Algebra.Order.Field.Rat
import Mathlib.Algebra.Ring.Int.Parity
import Mathlib.Tactic.FieldSimp
import Mathlib.Tactic.Linarith
import PeerTelemetry.Number.Binary

/-!
# What the nearest integer is

A rounded quotient is computed from a quotient and twice a remainder, and neither of
the two says what rounding is for. That takes two lines: **no integer is nearer, and
where another one is as near the integer is even** (`IsNearestEven`). There is no quotient in
them, and no sign and no size, and yet they leave one integer only.

They also decide the order. The nearest integers of two numbers come in the order of the numbers
(`IsNearestEven.mono`), and this needs nothing about how they are found. Were they the
other way round, both numbers would lie in the middle between them; both integers would then be
even, so there is one between them, and that is nearer.
-/

namespace PeerTelemetry

/-- **The nearest integer to a number**, a tie going to the even one. -/
structure IsNearestEven (x : ℚ) (n : ℤ) : Prop where
  /-- No integer is nearer. -/
  abs_sub_le_abs_sub : ∀ m : ℤ, |x - n| ≤ |x - m|
  /-- Where another integer is as near, this one is even. -/
  even_of_tie : ∀ m : ℤ, m ≠ n → |x - m| = |x - n| → Even n

namespace IsNearestEven

variable {x y : ℚ} {m n : ℤ}

/-- **An integer within half a unit is nearest**, if it is even where it is half a unit away. -/
theorem of_abs_sub_le_half (h : |x - n| ≤ 1 / 2) (heven : |x - n| = 1 / 2 → Even n) :
    IsNearestEven x n := by
  -- Two integers are a unit apart, so nothing is near to both.
  have hapart : ∀ m : ℤ, m ≠ n → 1 ≤ |x - m| + |x - n| := by
    intro m hmn
    have hunit : (1 : ℤ) ≤ |m - n| := Int.one_le_abs (sub_ne_zero.mpr hmn)
    calc (1 : ℚ) ≤ |(m : ℚ) - n| := by exact_mod_cast hunit
      _ ≤ |(m : ℚ) - x| + |x - n| := abs_sub_le _ _ _
      _ = |x - m| + |x - n| := by rw [abs_sub_comm (m : ℚ) x]
  refine ⟨fun m => ?_, fun m hmn htie => heven ?_⟩
  · rcases eq_or_ne m n with rfl | hmn
    · exact le_rfl
    · have hsum := hapart m hmn
      linarith
  · have hsum := hapart m hmn
    rw [htie] at hsum
    linarith

/-- **The middle is not passed**: a number lies on the near side of the middle between its nearest
integer and any other, whether the other is greater or less. -/
theorem two_mul_mul_sub_le (h : IsNearestEven x n) (m : ℤ) :
    2 * x * (m - n) ≤ (m + n) * (m - n) := by
  have hsq : (x - n) ^ 2 ≤ (x - m) ^ 2 := sq_le_sq.mpr (h.abs_sub_le_abs_sub m)
  linarith

/-- **Nearest integers come in the order of the numbers.** -/
theorem mono (hm : IsNearestEven x m) (hn : IsNearestEven y n) (h : x ≤ y) : m ≤ n := by
  by_contra! hlt
  have hgap : (0 : ℚ) < m - n := sub_pos.mpr (Int.cast_lt.mpr hlt)
  have hx : (m : ℚ) + n ≤ 2 * x := by
    refine le_of_mul_le_mul_right ?_ hgap
    have hside := hm.two_mul_mul_sub_le n
    linarith
  have hy : 2 * y ≤ (m : ℚ) + n := le_of_mul_le_mul_right (hn.two_mul_mul_sub_le m) hgap
  obtain rfl : x = y := le_antisymm h (by linarith)
  have htie : |x - n| = |x - m| := by
    rw [← abs_neg, show -(x - n) = x - m by linarith]
  have heven : Even m := hm.even_of_tie n hlt.ne htie
  have heven' : Even n := hn.even_of_tie m hlt.ne' htie.symm
  -- The integer behind `n` is nearer to the middle than `n`, unless it is `m`.
  have hnext := hn.two_mul_mul_sub_le (n + 1)
  have hle : (m : ℚ) ≤ (n + 1 : ℤ) := by
    push_cast at hnext ⊢
    linarith
  obtain rfl : m = n + 1 := le_antisymm (Int.cast_le.mp hle) hlt
  exact Int.even_add_one.mp heven heven'

/-- **There is one nearest integer only.** -/
theorem unique (hm : IsNearestEven x m) (hn : IsNearestEven x n) : m = n :=
  le_antisymm (hm.mono hn le_rfl) (hn.mono hm le_rfl)

end IsNearestEven

/-! ## The rounded quotient -/

/-- Half a unit away from the quotient, the rounded quotient is even. -/
theorem roundDiv_even_of_error_eq {n d : Nat} (hd : 0 < d)
    (h : 2 * n = 2 * (d * roundDiv n d) + d ∨ 2 * (d * roundDiv n d) = 2 * n + d) :
    roundDiv n d % 2 = 0 := by
  by_cases htie : 2 * (n % d) = d
  · exact roundDiv_even_of_tie htie
  -- Otherwise the error is twice the remainder, or what is missing from it to the next multiple.
  have hdiv := Nat.div_add_mod n d
  have hstep : d * (n / d + 1) = d * (n / d) + d := Nat.mul_succ d (n / d)
  have hmod := Nat.mod_lt n hd
  exfalso
  unfold roundDiv at h
  dsimp only at h
  split at h
  · omega
  · split at h <;> omega

/-- **The rounded quotient is the nearest integer to the quotient.** -/
theorem isNearestEven_roundDiv {n d : Nat} (hd : 0 < d) :
    IsNearestEven ((n : ℚ) / d) (roundDiv n d) := by
  have hdq : (0 : ℚ) < d := Nat.cast_pos.mpr hd
  obtain ⟨hlow, hhigh⟩ := roundDiv_error_le (n := n) hd
  have hlow' : 2 * (n : ℚ) ≤ 2 * (d * roundDiv n d) + d := by exact_mod_cast hlow
  have hhigh' : 2 * (d * (roundDiv n d : ℚ)) ≤ 2 * n + d := by exact_mod_cast hhigh
  have herror : (n : ℚ) / d - ((roundDiv n d : ℤ) : ℚ) = (n - d * roundDiv n d) / d := by
    rw [Int.cast_natCast]
    field_simp
  have habs : |(n : ℚ) / d - ((roundDiv n d : ℤ) : ℚ)| = |n - d * (roundDiv n d : ℚ)| / d := by
    rw [herror, abs_div, abs_of_pos hdq]
  refine IsNearestEven.of_abs_sub_le_half ?_ fun hhalf => ?_
  · rw [habs, div_le_iff₀ hdq]
    exact abs_le.mpr ⟨by linarith, by linarith⟩
  · rw [habs, div_eq_iff hdq.ne', abs_eq (by positivity)] at hhalf
    rw [Int.even_coe_nat, Nat.even_iff]
    refine roundDiv_even_of_error_eq hd (hhalf.imp (fun h => ?_) (fun h => ?_))
    · have hcast : 2 * (n : ℚ) = 2 * (d * roundDiv n d) + d := by linarith
      exact_mod_cast hcast
    · have hcast : 2 * (d * (roundDiv n d : ℚ)) = 2 * n + d := by linarith
      exact_mod_cast hcast

end PeerTelemetry
