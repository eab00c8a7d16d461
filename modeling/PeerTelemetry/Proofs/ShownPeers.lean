import PeerTelemetry.Proofs.DecimalReading
import PeerTelemetry.Proofs.LineParts
import PeerTelemetry.Report.PeerText

/-!
# What is shown can be sent back

An operator sees a round-trip time with three decimals, and may type what is seen into a
record of the next report. Showing loses information, reading rounds again, and the two
round in different bases; so the number that is sent need not be the number that was received.
What is shown of it is the same all the same, and this rests on **the place where a thousandth
passes the spacing of the numbers**.

A thousandth is more than `2 ^ -10` and less than `2 ^ -9`. Where the spacing is `2 ^ -10` or
less, which is below 16384, the number read is less than half a thousandth away from
the thousandths shown, so they are also what is nearest to it
(`Format.parts_nearest_parts`). Where it is `2 ^ -9` or more, the thousandths shown are less than
half a spacing away from the number they were shown for, so that is the number read
(`Format.nearest_parts`). There is no number for which neither holds.
-/

namespace PeerTelemetry

-- Powers of numbers are the core library's own, whatever algebra is loaded besides.
attribute [local instance (high)] instPowNat

/-! ## Two roundings -/

namespace Format

theorem signBit_single : single.signBit = 0x80000000 := by decide

variable (f : Format)

/-- **The parts that are shown**: the number of a pattern in `d`-ths, rounded to a whole
number of them. -/
def parts (d pattern : Nat) : Nat := roundDiv (d * f.units pattern) (2 ^ f.scale)

theorem parts_error_le (d pattern : Nat) :
    2 * (d * f.units pattern) ≤ 2 * (f.parts d pattern * 2 ^ f.scale) + 2 ^ f.scale
      ∧ 2 * (f.parts d pattern * 2 ^ f.scale) ≤ 2 * (d * f.units pattern) + 2 ^ f.scale := by
  have herror := roundDiv_error_le (n := d * f.units pattern) (Nat.two_pow_pos f.scale)
  rwa [Nat.mul_comm (2 ^ f.scale)] at herror

variable {f} {d j pattern : Nat}

/-- **Where the numbers are closer than the parts**, the number read shows the parts it was
read from. -/
theorem parts_nearest_parts (hfine : d * 2 ^ j < 2 ^ f.scale)
    (hcoarse : 2 ^ f.scale < d * 2 ^ (j + 1))
    (hj : j + 3 < 2 ^ f.exponentBits) (h : f.units pattern < 2 ^ (f.fractionBits + j + 1)) :
    f.nearest (f.parts d pattern) d < f.infinity
      ∧ f.parts d (f.nearest (f.parts d pattern) d) = f.parts d pattern := by
  have hd : 0 < d := Nat.pos_of_mul_pos_right (Nat.lt_of_le_of_lt (Nat.zero_le _) hcoarse)
  obtain ⟨-, herror⟩ := f.parts_error_le d pattern
  have hscaled : f.parts d pattern * 2 ^ f.scale < d * 2 ^ (f.fractionBits + j + 1) := by
    have hgap := Nat.mul_le_mul_left d (f.units_add_le h)
    rw [Nat.mul_add] at hgap
    rw [Nat.pow_succ, ← Nat.mul_assoc] at hcoarse
    omega
  obtain ⟨hle, hbelow, habove⟩ := f.units_nearest_error_le hd hscaled (Nat.lt_of_succ_lt hj)
  refine ⟨Nat.lt_of_le_of_lt hle ?_, roundDiv_eq_of_error_lt (Nat.two_pow_pos _) ?_ ?_⟩
  · exact Nat.mul_lt_mul_of_pos_right (by omega) (Nat.two_pow_pos _)
  · rw [Nat.mul_comm (2 ^ f.scale)]
    omega
  · rw [Nat.mul_comm (2 ^ f.scale)]
    omega

/-- **Where the parts are closer than the numbers**, the number read is the number the parts were
shown for. -/
theorem nearest_parts (hcoarse : 2 ^ f.scale < d * 2 ^ (j + 1))
    (hscale : f.scale ≤ f.fractionBits + j + 1) (h : 2 ^ (f.fractionBits + j + 1) ≤ f.units pattern)
    (hfinite : pattern < f.infinity) : f.nearest (f.parts d pattern) d = pattern := by
  have hd : 0 < d := Nat.pos_of_mul_pos_right (Nat.lt_of_le_of_lt (Nat.zero_le _) hcoarse)
  obtain ⟨herror, herror'⟩ := f.parts_error_le d pattern
  obtain ⟨k, m, hpattern, hm, hk⟩ := f.exists_significand pattern
  have hunits : f.units pattern = m * 2 ^ k := by
    rw [hpattern, f.units_add (Nat.le_of_lt hm) hk]
  have hjk : j < k := by
    refine Nat.not_le.mp (fun hkj => Nat.not_lt.mpr h ?_)
    calc f.units pattern
        = m * 2 ^ k := hunits
      _ < 2 * 2 ^ f.fractionBits * 2 ^ k := Nat.mul_lt_mul_of_pos_right hm (Nat.two_pow_pos k)
      _ ≤ 2 * 2 ^ f.fractionBits * 2 ^ j :=
        Nat.mul_le_mul_left _ (Nat.pow_le_pow_right (by decide) hkj)
      _ = 2 ^ (f.fractionBits + j + 1) := (f.two_pow_binade_end j).symm
  have hlead : 2 ^ f.fractionBits ≤ m := hk.resolve_left (by omega)
  have hspacing : 2 ^ f.scale < d * 2 ^ k :=
    Nat.lt_of_lt_of_le hcoarse (Nat.mul_le_mul_left d (Nat.pow_le_pow_right (by decide) hjk))
  have hvalue : d * f.units pattern = d * 2 ^ k * m := by
    rw [hunits, Nat.mul_comm m, Nat.mul_assoc]
  have hlow : d * 2 ^ (f.fractionBits + k) ≤ f.parts d pattern * 2 ^ f.scale := by
    obtain ⟨i, hi⟩ := Nat.exists_eq_add_of_le (show f.scale ≤ f.fractionBits + k by omega)
    -- The beginning of the binade is a whole number of parts, so rounding does not pass it.
    have hbegin : 2 ^ f.scale * (d * 2 ^ i) = d * 2 ^ k * 2 ^ f.fractionBits := by
      rw [Nat.mul_left_comm, ← Nat.pow_add, ← hi, Nat.add_comm, Nat.pow_add, Nat.mul_assoc]
    have hparts : d * 2 ^ i ≤ f.parts d pattern := by
      refine le_roundDiv (Nat.two_pow_pos f.scale) ?_
      rw [hbegin, hvalue]
      exact Nat.mul_le_mul_left _ hlead
    calc d * 2 ^ (f.fractionBits + k)
        = d * 2 ^ i * 2 ^ f.scale := by
          rw [hi, Nat.add_comm, Nat.pow_add, Nat.mul_assoc]
      _ ≤ f.parts d pattern * 2 ^ f.scale := Nat.mul_le_mul_right _ hparts
  have hhigh : f.parts d pattern * 2 ^ f.scale < d * 2 ^ (f.fractionBits + k + 1) := by
    have hend : d * 2 ^ (f.fractionBits + k + 1) = d * 2 ^ k * (2 * 2 ^ f.fractionBits) := by
      rw [f.two_pow_binade_end, Nat.mul_comm (2 * 2 ^ f.fractionBits), Nat.mul_assoc]
    have hgap := Nat.mul_le_mul_left (d * 2 ^ k) (Nat.succ_le_of_lt hm)
    rw [← hend, Nat.mul_succ] at hgap
    omega
  rw [hvalue] at herror herror'
  rw [hpattern] at hfinite hlow hhigh herror herror' ⊢
  exact f.nearest_eq_of_error_lt hd (Nat.le_of_lt hfinite) hlow hhigh (by omega) (by omega)

end Format

/-! ## Round-trip times -/

namespace Rtt

/-- **The bits of a round-trip time** from its sign and its magnitude. -/
def ofParts (negative : Bool) (magnitude : Nat) : Rtt :=
  ⟨UInt32.ofNat ((if negative then Format.single.signBit else 0) + magnitude)⟩

/-- A pattern is its sign and its magnitude. -/
theorem toNat_bits (rtt : Rtt) :
    rtt.bits.toNat = (if rtt.negative then Format.single.signBit else 0) + rtt.magnitude := by
  have hlt : rtt.bits.toNat < 2 ^ 32 := rtt.bits.toNat_lt
  simp only [negative, magnitude, Format.signBit_single, decide_eq_true_eq]
  split <;> omega

theorem ofParts_self (rtt : Rtt) : ofParts rtt.negative rtt.magnitude = rtt := by
  rw [ofParts, ← toNat_bits, UInt32.ofNat_toNat]

variable {magnitude : Nat}

theorem toNat_bits_ofParts (negative : Bool) (h : magnitude ≤ Format.single.infinity) :
    (ofParts negative magnitude).bits.toNat
      = (if negative then Format.single.signBit else 0) + magnitude := by
  rw [Format.infinity_single] at h
  rw [ofParts, UInt32.toNat_ofNat', Format.signBit_single, Nat.mod_eq_of_lt]
  split <;> omega

theorem negative_ofParts (negative : Bool) (h : magnitude ≤ Format.single.infinity) :
    (ofParts negative magnitude).negative = negative := by
  have hbits := toNat_bits_ofParts negative h
  rw [Format.infinity_single] at h
  rw [Rtt.negative, hbits, Format.signBit_single]
  cases negative with
  | true => exact decide_eq_true (Nat.le_add_right _ _)
  | false =>
    rw [if_neg Bool.false_ne_true, Nat.zero_add]
    exact decide_eq_false (by omega)

theorem magnitude_ofParts (negative : Bool) (h : magnitude ≤ Format.single.infinity) :
    (ofParts negative magnitude).magnitude = magnitude := by
  have hbits := toNat_bits_ofParts negative h
  rw [Format.infinity_single] at h
  rw [Rtt.magnitude, hbits, Format.signBit_single]
  split <;> omega

/-- **A sample** is no NaN, and has no sign unless it is a zero. -/
theorem isSample_iff {rtt : Rtt} :
    rtt.isSample = true ↔
      rtt.magnitude ≤ Format.single.infinity ∧ (rtt.negative = true → rtt.magnitude = 0) := by
  simp [isSample, isNaN, isZero, Bool.or_eq_true, Decidable.imp_iff_not_or]

/-- **What is shown of a round-trip time, without the unit behind it.** -/
def amount (rtt : Rtt) : List Char :=
  let unit := " us".toList
  if unit <:+ rtt.text then rtt.text.take (rtt.text.length - unit.length) else rtt.text

theorem amount_of_isSample {rtt : Rtt} (h : rtt.isSample = true) : rtt.amount = rtt.numeral := by
  rw [amount, text_of_isSample h, if_pos (List.suffix_append _ _), List.length_append,
    Nat.add_sub_cancel, List.take_left]

theorem amount_of_not_isSample {rtt : Rtt} (h : rtt.isSample = false) :
    rtt.amount = unavailable := by
  rw [amount, text_of_not_isSample h]
  rfl

theorem notMem_amount {c : Char} (h : isRttChar c = false) (rtt : Rtt) : c ∉ rtt.amount := by
  unfold amount
  dsimp only
  split
  · exact fun hc => rtt.notMem_text h (List.mem_of_mem_take hc)
  · exact rtt.notMem_text h

/-- **At least `n` microseconds**: a sample, and of that number or more. -/
def AtLeast (n : Nat) (rtt : Rtt) : Prop :=
  rtt.isSample = true ∧ n * 2 ^ Format.single.scale ≤ Format.single.units rtt.magnitude

instance (n : Nat) (rtt : Rtt) : Decidable (AtLeast n rtt) :=
  inferInstanceAs (Decidable (_ ∧ _))

/-- Infinity is at least 16384, and the number right below is not. -/
example : AtLeast 16384 ⟨0x7F800000⟩ ∧ ¬AtLeast 16384 ⟨0x467FFFFF⟩ := by decide

/-! ### Finite numbers -/

/-- A number with three decimals is read as the pattern nearest to it. -/
theorem read?_fixedPoint (negative : Bool) (n : Nat) :
    read? ((if negative then ['-'] else []) ++ fixedPoint 3 n)
      = some (ofParts negative (Format.single.nearest n 1000)) := by
  have hword : ((if negative then ['-'] else []) ++ fixedPoint 3 n).map Char.toLower
      ≠ unavailable := by
    obtain ⟨c, digits, hcons, hdigit⟩ := exists_decimal_eq_cons (n / 10 ^ 3)
    cases negative with
    | true => exact fun heq => absurd (List.cons.inj heq).1 (by decide)
    | false =>
      rw [fixedPoint, hcons]
      exact FloatLiteral.map_toLower_ne (Or.inl hdigit) (by decide)
  rw [read?, if_neg hword, FloatLiteral.read_fixedPoint (by decide), Option.map_some,
    FloatLiteral.pattern, FloatLiteral.magnitude_fixedPoint _ (by decide)]
  rfl

/-- **What is read where a finite number is shown**: the sign of it, and the number nearest to
its thousandths. -/
def readBack (rtt : Rtt) : Rtt :=
  ofParts rtt.negative (Format.single.nearest rtt.thousandths 1000)

section ReadBack

variable {rtt : Rtt} (hfinite : rtt.magnitude < Format.single.infinity)
include hfinite

theorem read?_numeral : read? rtt.numeral = some rtt.readBack := by
  rw [numeral, if_neg (Nat.ne_of_lt hfinite), read?_fixedPoint, readBack]

/-- From 16384 on the thousandths are closer than the numbers. -/
theorem nearest_thousandths
    (h : 16384 * 2 ^ Format.single.scale ≤ Format.single.units rtt.magnitude) :
    Format.single.nearest rtt.thousandths 1000 = rtt.magnitude :=
  Format.nearest_parts (j := 139) (by decide) (by decide) h hfinite

/-- **On either side of 16384**, the number read is finite and has the thousandths it was
read from. -/
theorem parts_nearest_thousandths :
    Format.single.nearest rtt.thousandths 1000 < Format.single.infinity
      ∧ Format.single.parts 1000 (Format.single.nearest rtt.thousandths 1000)
        = rtt.thousandths := by
  rcases Nat.lt_or_ge (Format.single.units rtt.magnitude) (16384 * 2 ^ Format.single.scale)
    with hlow | hhigh
  · exact Format.parts_nearest_parts (j := 139) (by decide) (by decide) (by decide) hlow
  · rw [nearest_thousandths hfinite hhigh]
    exact ⟨hfinite, rfl⟩

theorem negative_readBack : rtt.readBack.negative = rtt.negative :=
  negative_ofParts _ (Nat.le_of_lt (parts_nearest_thousandths hfinite).1)

theorem magnitude_readBack :
    rtt.readBack.magnitude = Format.single.nearest rtt.thousandths 1000 :=
  magnitude_ofParts _ (Nat.le_of_lt (parts_nearest_thousandths hfinite).1)

/-- What is read shows the same numeral. -/
theorem numeral_readBack : rtt.readBack.numeral = rtt.numeral := by
  obtain ⟨hlt, hparts⟩ := parts_nearest_thousandths hfinite
  have hthousandths : rtt.readBack.thousandths = rtt.thousandths := by
    rw [thousandths, magnitude_readBack hfinite]
    exact hparts
  rw [numeral, numeral, hthousandths, magnitude_readBack hfinite, negative_readBack hfinite,
    if_neg (Nat.ne_of_lt hlt), if_neg (Nat.ne_of_lt hfinite)]

/-- A sample is read as a sample: one with a sign is a zero, and stays one. -/
theorem isSample_readBack (h : rtt.isSample = true) : rtt.readBack.isSample = true := by
  rw [isSample_iff, magnitude_readBack hfinite, negative_readBack hfinite]
  refine ⟨Nat.le_of_lt (parts_nearest_thousandths hfinite).1, fun hminus => ?_⟩
  have hzero : rtt.thousandths = 0 := by
    rw [thousandths, (isSample_iff.mp h).2 hminus]
    rfl
  rw [hzero, Format.nearest_zero _ (by decide)]

theorem readBack_eq_self (h : rtt.AtLeast 16384) : rtt.readBack = rtt := by
  rw [readBack, nearest_thousandths hfinite h.2, ofParts_self]

end ReadBack

/-! ### All round-trip times -/

/-- The one sample that is not finite is infinity, without a sign. -/
theorem read?_numeral_of_infinite {rtt : Rtt} (h : rtt.isSample = true)
    (hinfinite : rtt.magnitude = Format.single.infinity) : read? rtt.numeral = some rtt := by
  have hpositive : rtt.negative = false := by
    refine Bool.eq_false_iff.mpr (fun hminus => ?_)
    rw [(isSample_iff.mp h).2 hminus] at hinfinite
    exact absurd hinfinite (by decide)
  have hself : ofParts false Format.single.infinity = rtt := by
    rw [← hpositive, ← hinfinite, ofParts_self]
  rw [numeral, if_pos hinfinite, ← hself]
  rfl

/-- **What is shown of a round-trip time is read back** as one that is shown alike, and from
16384 on as itself. -/
theorem exists_read?_amount (rtt : Rtt) :
    ∃ back : Rtt, read? rtt.amount = some back ∧ back.text = rtt.text
      ∧ (rtt.AtLeast 16384 → back = rtt) := by
  cases hsample : rtt.isSample with
  | false =>
    rw [amount_of_not_isSample hsample, text_of_not_isSample hsample]
    refine ⟨unknown, rfl, rfl, fun hleast => ?_⟩
    rw [hleast.1] at hsample
    cases hsample
  | true =>
    rw [amount_of_isSample hsample, text_of_isSample hsample]
    rcases Nat.lt_or_eq_of_le (isSample_iff.mp hsample).1 with hfinite | hinfinite
    · refine ⟨rtt.readBack, read?_numeral hfinite, ?_, readBack_eq_self hfinite⟩
      rw [text_of_isSample (isSample_readBack hfinite hsample), numeral_readBack hfinite]
    · exact ⟨rtt, read?_numeral_of_infinite hsample hinfinite, text_of_isSample hsample,
        fun _ => rfl⟩

end Rtt

/-! ## Records -/

theorem readWord32_decimal (blame : IntegerError → PeerTextError) (word : UInt32) :
    readWord32 blame (decimal word.toNat) = .ok word := by
  have hbound : word.toNat ≤ 4294967295 := Nat.le_of_lt_succ word.toNat_lt
  rw [readWord32, readNat_decimal hbound]
  exact congrArg Except.ok UInt32.ofNat_toNat

namespace PeerStat

/-- **A record as an operator types it who has seen it**: the id, what is shown of the
round-trip time without the unit, and the losses. -/
def shown (p : PeerStat) : List Char :=
  decimal p.id.toNat ++ ':' :: (p.rtt.amount ++ ':' :: decimal p.losses.toNat)

theorem splitOn_shown (p : PeerStat) :
    p.shown.splitOn ':' = [decimal p.id.toNat, p.rtt.amount, decimal p.losses.toNat] := by
  rw [shown, List.splitOn_append_cons_self_of_not_mem (notMem_decimal rfl _),
    List.splitOn_append_cons_self_of_not_mem (p.rtt.notMem_amount rfl),
    List.splitOn_eq_singleton (notMem_decimal rfl _)]

/-- **What is shown can be sent back, and shows the same.** It is a record of the same
peer with the same losses; and a round-trip time of at least 16384 microseconds is the same
to the last bit. -/
theorem parse_shown (p : PeerStat) :
    ∃ q : PeerStat, parse p.shown = .ok q ∧ q.id = p.id ∧ q.losses = p.losses
      ∧ q.line = p.line ∧ (p.rtt.AtLeast 16384 → q.rtt = p.rtt) := by
  obtain ⟨back, hread, htext, hsame⟩ := p.rtt.exists_read?_amount
  refine ⟨⟨p.id, back, p.losses⟩, ?_, rfl, rfl, ?_, hsame⟩
  · unfold parse
    rw [splitOn_shown]
    dsimp only
    rw [readWord32_decimal, readWord32_decimal, hread]
    rfl
  · unfold line
    rw [htext]

/-- A record whose round-trip time is the number right above 16384, which is more than 16384.001
and less than 16384.002. -/
def inexact : PeerStat := ⟨7, ⟨0x46800001⟩, 0⟩

/-- It is shown as the thousandths nearest to it, and sent back from them. -/
theorem parse_shown_of_inexact :
    inexact.shown = "7:16384.002:0".toList ∧ inexact.rtt.AtLeast 16384
      ∧ parse "7:16384.002:0".toList = .ok inexact := by
  have hshown : inexact.shown = "7:16384.002:0".toList := by decide +kernel
  have hleast : inexact.rtt.AtLeast 16384 := by decide
  obtain ⟨q, hparse, hid, hlosses, -, hrtt⟩ := parse_shown inexact
  have hq : q = inexact := by
    cases q
    rw [PeerStat.mk.injEq]
    exact ⟨hid, hrtt hleast, hlosses⟩
  exact ⟨hshown, hleast, by rw [← hshown, hparse, hq]⟩

end PeerStat

end PeerTelemetry
