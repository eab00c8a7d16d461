import PeerTelemetry.Number.Binary

/-!
# Binades

Between two powers of two the numbers of a binary format are evenly spaced, and from one
power to the next the spacing doubles. Nothing of the rounding of a number needs more
than that, and a pattern says it openly: **the pattern `k * 2 ^ fractionBits + m` is
the number `m * 2 ^ k`** (`Format.units_add`), where `2 ^ k` is the spacing. This is
so at both ends of a binade, `m = 2 * 2 ^ fractionBits` included, and for the subnormal
numbers, which have no leading bit and the spacing of the least binade.

The nearest pattern to a fraction is then found by rounding in the spacing of the
binade the fraction lies in. Two things follow. What is found is within half a
spacing of the fraction (`Format.units_nearest_error_le`); and a number that is
nearer to the fraction than half of its own spacing is what is found
(`Format.nearest_eq_of_error_lt`).
-/

namespace PeerTelemetry

-- Powers of numbers are the core library's own, whatever algebra is loaded besides.
attribute [local instance (high)] instPowNat

/-! ## Rounded quotients -/

section RoundDiv

variable {n d q : Nat}

/-- A quotient that is a whole number at most is rounded to that at most. -/
theorem roundDiv_le (hd : 0 < d) (h : n ≤ d * q) : roundDiv n d ≤ q := by
  obtain ⟨-, herror⟩ := roundDiv_error_le (n := n) hd
  refine Nat.not_lt.mp (fun hlt => ?_)
  have hmul := Nat.mul_le_mul_left d (Nat.succ_le_of_lt hlt)
  rw [Nat.mul_succ] at hmul
  omega

/-- A quotient that is a whole number at least is rounded to that at least. -/
theorem le_roundDiv (hd : 0 < d) (h : d * q ≤ n) : q ≤ roundDiv n d := by
  obtain ⟨herror, -⟩ := roundDiv_error_le (n := n) hd
  refine Nat.not_lt.mp (fun hlt => ?_)
  have hmul := Nat.mul_le_mul_left d (Nat.succ_le_of_lt hlt)
  rw [Nat.mul_succ] at hmul
  omega

/-- **A whole number less than half a unit away** is the rounded quotient. -/
theorem roundDiv_eq_of_error_lt (hd : 0 < d) (hlow : 2 * n < 2 * (d * q) + d)
    (hhigh : 2 * (d * q) < 2 * n + d) : roundDiv n d = q := by
  obtain ⟨herror, herror'⟩ := roundDiv_error_le (n := n) hd
  refine Nat.le_antisymm (Nat.not_lt.mp fun hlt => ?_) (Nat.not_lt.mp fun hlt => ?_)
  · have hmul := Nat.mul_le_mul_left d (Nat.succ_le_of_lt hlt)
    rw [Nat.mul_succ] at hmul
    omega
  · have hmul := Nat.mul_le_mul_left d (Nat.succ_le_of_lt hlt)
    rw [Nat.mul_succ] at hmul
    omega

end RoundDiv

namespace Format

variable (f : Format)

/-! ## Patterns -/

/-- **The number of a pattern**, from its binary exponent and its significand with the
leading bit. -/
theorem units_add {k m : Nat} (hm : m ≤ 2 * 2 ^ f.fractionBits)
    (hk : k = 0 ∨ 2 ^ f.fractionBits ≤ m) :
    f.units (k * 2 ^ f.fractionBits + m) = m * 2 ^ k := by
  have hpos : 0 < 2 ^ f.fractionBits := Nat.two_pow_pos _
  have hfield : ∀ e r : Nat, r < 2 ^ f.fractionBits →
      f.units (e * 2 ^ f.fractionBits + r)
        = if e = 0 then r else (2 ^ f.fractionBits + r) * 2 ^ (e - 1) := by
    intro e r hr
    unfold units
    rw [Nat.add_comm, Nat.add_mul_div_right _ _ hpos, Nat.div_eq_of_lt hr, Nat.zero_add,
      Nat.add_mul_mod_self_right, Nat.mod_eq_of_lt hr]
  by_cases hlow : m < 2 ^ f.fractionBits
  · obtain rfl : k = 0 := hk.resolve_right (Nat.not_le.mpr hlow)
    rw [hfield 0 m hlow, if_pos rfl, Nat.pow_zero, Nat.mul_one]
  obtain ⟨r, rfl⟩ := Nat.exists_eq_add_of_le (Nat.not_lt.mp hlow)
  by_cases hr : r < 2 ^ f.fractionBits
  · have hform : k * 2 ^ f.fractionBits + (2 ^ f.fractionBits + r)
        = (k + 1) * 2 ^ f.fractionBits + r := by
      rw [Nat.succ_mul, Nat.add_assoc]
    rw [hform, hfield _ _ hr, if_neg (Nat.succ_ne_zero k), Nat.add_sub_cancel]
  · -- The end of the binade is the beginning of the next.
    obtain rfl : r = 2 ^ f.fractionBits := by omega
    have hform : k * 2 ^ f.fractionBits + (2 ^ f.fractionBits + 2 ^ f.fractionBits)
        = (k + 2) * 2 ^ f.fractionBits + 0 := by
      rw [Nat.add_mul, Nat.two_mul, Nat.add_zero]
    rw [hform, hfield _ _ hpos, if_neg (Nat.succ_ne_zero _), Nat.add_zero,
      show k + 2 - 1 = k + 1 from rfl, Nat.pow_succ, Nat.mul_comm (2 ^ k), ← Nat.mul_assoc,
      Nat.mul_two]

/-- Every pattern has a binary exponent and a significand. -/
theorem exists_significand (pattern : Nat) :
    ∃ k m : Nat, pattern = k * 2 ^ f.fractionBits + m ∧ m < 2 * 2 ^ f.fractionBits
      ∧ (k = 0 ∨ 2 ^ f.fractionBits ≤ m) := by
  have hpos : 0 < 2 ^ f.fractionBits := Nat.two_pow_pos _
  have hdiv := Nat.div_add_mod' pattern (2 ^ f.fractionBits)
  have hmod := Nat.mod_lt pattern hpos
  cases he : pattern / 2 ^ f.fractionBits with
  | zero =>
    rw [he, Nat.zero_mul] at hdiv
    exact ⟨0, pattern, by omega, by omega, Or.inl rfl⟩
  | succ k =>
    rw [he, Nat.succ_mul] at hdiv
    exact ⟨k, 2 ^ f.fractionBits + pattern % 2 ^ f.fractionBits, by omega, by omega,
      Or.inr (Nat.le_add_right _ _)⟩

/-- Where a binade ends, the significand has reached twice its leading bit. -/
theorem two_pow_binade_end (j : Nat) :
    2 ^ (f.fractionBits + j + 1) = 2 * 2 ^ f.fractionBits * 2 ^ j := by
  rw [Nat.pow_succ, Nat.pow_add, Nat.mul_comm, Nat.mul_assoc]

/-- **Below a power of two** there is no number for one spacing. -/
theorem units_add_le {pattern j : Nat}
    (h : f.units pattern < 2 ^ (f.fractionBits + j + 1)) :
    f.units pattern + 2 ^ j ≤ 2 ^ (f.fractionBits + j + 1) := by
  obtain ⟨k, m, rfl, hm, hk⟩ := f.exists_significand pattern
  rw [f.units_add (Nat.le_of_lt hm) hk] at h ⊢
  have hkj : k ≤ j := by
    rcases hk with rfl | hlead
    · exact Nat.zero_le j
    · have hpow' : 2 ^ (f.fractionBits + k) < 2 ^ (f.fractionBits + j + 1) := by
        rw [Nat.pow_add]
        exact Nat.lt_of_le_of_lt (Nat.mul_le_mul_right _ hlead) h
      have hlt := (Nat.pow_lt_pow_iff_right (by decide)).mp hpow'
      omega
  calc m * 2 ^ k + 2 ^ j
      ≤ m * 2 ^ j + 2 ^ j :=
        Nat.add_le_add_right (Nat.mul_le_mul_left m (Nat.pow_le_pow_right (by decide) hkj)) _
    _ = (m + 1) * 2 ^ j := (Nat.succ_mul m _).symm
    _ ≤ 2 * 2 ^ f.fractionBits * 2 ^ j := Nat.mul_le_mul_right _ hm
    _ = 2 ^ (f.fractionBits + j + 1) := (f.two_pow_binade_end j).symm

/-! ## The nearest pattern -/

/-- **The binary exponent at which a fraction is rounded.** -/
def exponentOf (n d : Nat) : Nat := (n * 2 ^ f.scale / d).log2 - f.fractionBits

/-- The significand to which a fraction is rounded. -/
def significandOf (n d : Nat) : Nat :=
  roundDiv (n * 2 ^ f.scale) (d * 2 ^ f.exponentOf n d)

theorem nearest_eq_min (n d : Nat) :
    f.nearest n d
      = min (f.exponentOf n d * 2 ^ f.fractionBits + f.significandOf n d) f.infinity :=
  rfl

variable {n d : Nat}

/-- Zero is the nearest pattern to zero. -/
theorem nearest_zero (hd : 0 < d) : f.nearest 0 d = 0 := by
  have hexponent : f.exponentOf 0 d = 0 := by
    rw [exponentOf, Nat.zero_mul, Nat.zero_div, Nat.log2_zero, Nat.zero_sub]
  have hsignificand : f.significandOf 0 d = 0 := by
    rw [significandOf, Nat.zero_mul, hexponent, Nat.pow_zero, Nat.mul_one]
    exact roundDiv_mul_left hd 0
  rw [nearest_eq_min, hexponent, hsignificand, Nat.zero_mul, Nat.zero_add, Nat.zero_min]

/-- A fraction below the end of a binade is rounded in that binade or in a lower one. -/
theorem exponentOf_le {j : Nat} (h : n * 2 ^ f.scale < d * 2 ^ (f.fractionBits + j + 1)) :
    f.exponentOf n d ≤ j := by
  have hq : n * 2 ^ f.scale / d < 2 ^ (f.fractionBits + j + 1) := Nat.div_lt_of_lt_mul h
  unfold exponentOf
  by_cases hzero : n * 2 ^ f.scale / d = 0
  · rw [hzero, Nat.log2_zero, Nat.zero_sub]
    exact Nat.zero_le j
  · have hlog := (Nat.log2_lt hzero).mpr hq
    omega

/-- A fraction in a binade is rounded in it. -/
theorem exponentOf_eq {k : Nat} (hd : 0 < d) (hlow : d * 2 ^ (f.fractionBits + k) ≤ n * 2 ^ f.scale)
    (hhigh : n * 2 ^ f.scale < d * 2 ^ (f.fractionBits + k + 1)) : f.exponentOf n d = k := by
  refine Nat.le_antisymm (f.exponentOf_le hhigh) ?_
  have hq : 2 ^ (f.fractionBits + k) ≤ n * 2 ^ f.scale / d :=
    (Nat.le_div_iff_mul_le hd).mpr (by rwa [Nat.mul_comm])
  have hne : n * 2 ^ f.scale / d ≠ 0 := Nat.ne_of_gt (Nat.lt_of_lt_of_le (Nat.two_pow_pos _) hq)
  have hlog := (Nat.le_log2 hne).mpr hq
  unfold exponentOf
  omega

/-- The significand may reach the end of the binade, and does not pass it. -/
theorem significandOf_le (hd : 0 < d) : f.significandOf n d ≤ 2 * 2 ^ f.fractionBits := by
  have hq : n * 2 ^ f.scale / d < 2 ^ (f.fractionBits + f.exponentOf n d + 1) := by
    refine Nat.lt_of_lt_of_le Nat.lt_log2_self (Nat.pow_le_pow_right (by decide) ?_)
    unfold exponentOf
    omega
  have hlt := (Nat.div_lt_iff_lt_mul hd).mp hq
  refine roundDiv_le (Nat.mul_pos hd (Nat.two_pow_pos _)) (Nat.le_of_lt ?_)
  calc n * 2 ^ f.scale
      < 2 ^ (f.fractionBits + f.exponentOf n d + 1) * d := hlt
    _ = d * 2 ^ f.exponentOf n d * (2 * 2 ^ f.fractionBits) := by
      rw [f.two_pow_binade_end]
      ac_rfl

/-- A fraction that is rounded above the least binade does not lie below the binade it is rounded
in. -/
theorem two_pow_le_of_exponentOf_pos (hd : 0 < d) (h : 0 < f.exponentOf n d) :
    2 ^ (f.fractionBits + f.exponentOf n d) * d ≤ n * 2 ^ f.scale := by
  have hlog : (n * 2 ^ f.scale / d).log2 = f.fractionBits + f.exponentOf n d := by
    unfold exponentOf at h ⊢
    omega
  have hne : n * 2 ^ f.scale / d ≠ 0 := by
    intro hq
    rw [hq, Nat.log2_zero] at hlog
    omega
  have hq := Nat.log2_self_le hne
  rwa [hlog, Nat.le_div_iff_mul_le hd] at hq

/-- Above the least binade the significand has its leading bit. -/
theorem le_significandOf (hd : 0 < d) :
    f.exponentOf n d = 0 ∨ 2 ^ f.fractionBits ≤ f.significandOf n d := by
  rcases Nat.eq_zero_or_pos (f.exponentOf n d) with hzero | hpos
  · exact Or.inl hzero
  refine Or.inr (le_roundDiv (Nat.mul_pos hd (Nat.two_pow_pos _)) ?_)
  calc d * 2 ^ f.exponentOf n d * 2 ^ f.fractionBits
      = 2 ^ (f.fractionBits + f.exponentOf n d) * d := by
        rw [Nat.pow_add]
        ac_rfl
    _ ≤ n * 2 ^ f.scale := f.two_pow_le_of_exponentOf_pos hd hpos

/-- **The nearest pattern is within half a spacing.** Of a fraction below the end of a
binade it is a pattern up to that end, and the number of the pattern is off by
half the spacing of the binade at most. -/
theorem units_nearest_error_le {j : Nat} (hd : 0 < d)
    (h : n * 2 ^ f.scale < d * 2 ^ (f.fractionBits + j + 1)) (hj : j + 2 < 2 ^ f.exponentBits) :
    f.nearest n d ≤ (j + 2) * 2 ^ f.fractionBits
      ∧ 2 * (n * 2 ^ f.scale) ≤ 2 * (d * f.units (f.nearest n d)) + d * 2 ^ j
      ∧ 2 * (d * f.units (f.nearest n d)) ≤ 2 * (n * 2 ^ f.scale) + d * 2 ^ j := by
  have hle := f.exponentOf_le h
  have hsig := f.significandOf_le (n := n) hd
  have hpattern : f.exponentOf n d * 2 ^ f.fractionBits + f.significandOf n d
      ≤ (j + 2) * 2 ^ f.fractionBits := by
    rw [Nat.add_mul]
    exact Nat.add_le_add (Nat.mul_le_mul_right _ hle) hsig
  have hfinite : (j + 2) * 2 ^ f.fractionBits ≤ f.infinity :=
    Nat.mul_le_mul_right _ (Nat.le_sub_one_of_lt hj)
  have hnearest : f.nearest n d
      = f.exponentOf n d * 2 ^ f.fractionBits + f.significandOf n d := by
    rw [nearest_eq_min, Nat.min_eq_left (Nat.le_trans hpattern hfinite)]
  have hunits : d * f.units (f.nearest n d)
      = d * 2 ^ f.exponentOf n d * f.significandOf n d := by
    rw [hnearest, f.units_add hsig (f.le_significandOf hd), Nat.mul_comm (f.significandOf n d),
      Nat.mul_assoc]
  obtain ⟨herror, herror'⟩ := roundDiv_error_le (n := n * 2 ^ f.scale)
    (Nat.mul_pos hd (Nat.two_pow_pos (f.exponentOf n d)))
  have hspacing : d * 2 ^ f.exponentOf n d ≤ d * 2 ^ j :=
    Nat.mul_le_mul_left d (Nat.pow_le_pow_right (by decide) hle)
  rw [hunits]
  refine ⟨hnearest ▸ hpattern, ?_, ?_⟩
  · exact Nat.le_trans herror (Nat.add_le_add_left hspacing _)
  · exact Nat.le_trans herror' (Nat.add_le_add_left hspacing _)

/-- **A number less than half of its spacing away is the nearest**, where the fraction lies in
its binade. -/
theorem nearest_eq_of_error_lt {k m : Nat} (hd : 0 < d)
    (hfinite : k * 2 ^ f.fractionBits + m ≤ f.infinity)
    (hlow : d * 2 ^ (f.fractionBits + k) ≤ n * 2 ^ f.scale)
    (hhigh : n * 2 ^ f.scale < d * 2 ^ (f.fractionBits + k + 1))
    (herror : 2 * (n * 2 ^ f.scale) < 2 * (d * 2 ^ k * m) + d * 2 ^ k)
    (herror' : 2 * (d * 2 ^ k * m) < 2 * (n * 2 ^ f.scale) + d * 2 ^ k) :
    f.nearest n d = k * 2 ^ f.fractionBits + m := by
  have hk : f.exponentOf n d = k := f.exponentOf_eq hd hlow hhigh
  have hm : f.significandOf n d = m := by
    unfold significandOf
    rw [hk]
    exact roundDiv_eq_of_error_lt (Nat.mul_pos hd (Nat.two_pow_pos k)) herror herror'
  rw [nearest_eq_min, hk, hm, Nat.min_eq_left hfinite]

end Format

end PeerTelemetry
