import PeerTelemetry.Number.Integer
import PeerTelemetry.Proofs.Binades
import PeerTelemetry.Proofs.FloatGrammar

/-!
# Decimal text read back

The text of a number is decimal digits, with a point among them where it has decimals. The readers
of integers and of float literals take more than that: signs, leading zeros,
exponents, words. What is written is therefore read back because the readers, on digits alone,
**take nothing away and add nothing**: an integer is the number of its digits
(`readDigits_eq_ofDigitChars`), and a literal is its digits, those behind the point
included, with an exponent that counts them (`FloatLiteral.read_fixedPoint`).

The digits behind the point are filled up with zeros to their number of places, and
that is what lets the digits on both sides of the point be read as one integer
(`ofDecimal_fixedPoint`).
-/

namespace PeerTelemetry

-- Powers of numbers are the core library's own, whatever algebra is loaded besides.
attribute [local instance (high)] instPowNat

/-! ## Integers -/

/-- More digits do not make a number smaller. -/
theorem le_ofDigitChars (digits : List Char) (n : Nat) : n ≤ Nat.ofDigitChars 10 digits n := by
  rw [Nat.ofDigitChars_eq_ofDigitChars_zero]
  have hpow : 1 * n ≤ 10 ^ digits.length * n :=
    Nat.mul_le_mul_right n (Nat.pow_pos (by decide))
  omega

/-- **Digits are read as the number they denote**, where that is within the bound. -/
theorem readDigits_eq_ofDigitChars {bound : Nat} {beyond : IntegerError} {digits : List Char}
    {n : Nat} (hdigits : ∀ c ∈ digits, c.isDigit = true)
    (hbound : Nat.ofDigitChars 10 digits n ≤ bound) :
    readDigits bound beyond n digits = .ok (Nat.ofDigitChars 10 digits n) := by
  induction digits generalizing n with
  | nil => rfl
  | cons c digits ih =>
    rw [Nat.ofDigitChars_cons] at hbound ⊢
    have hdigit : c.isDigit = true := hdigits c List.mem_cons_self
    -- What is read so far is no more than what is read in the end.
    have hnext := Nat.le_trans (le_ofDigitChars digits _) hbound
    rw [readDigits, if_neg (by rw [hdigit]; decide)]
    dsimp only
    rw [if_neg (Nat.not_lt.mpr hnext)]
    exact ih (fun d hd => hdigits d (List.mem_cons_of_mem c hd)) hbound

/-- The text of a number begins with a digit. -/
theorem exists_decimal_eq_cons (n : Nat) :
    ∃ c digits, decimal n = c :: digits ∧ c.isDigit = true := by
  cases h : decimal n with
  | nil => exact absurd h (decimal_ne_nil n)
  | cons c digits =>
    exact ⟨c, digits, rfl, isDigit_of_mem_decimal (h ▸ List.mem_cons_self)⟩

/-- **There is no superfluous zero in front**: only the text of zero begins with one. -/
theorem decimal_ne_zero_cons {n : Nat} (h : 0 < n) (rest : List Char) :
    decimal n ≠ '0' :: rest := by
  induction n using Nat.strongRecOn generalizing rest with
  | ind n ih =>
    rcases Nat.lt_or_ge n 10 with hdigit | hlong
    · have hchar : n.digitChar ≠ '0' := by
        have hall : ∀ d : Fin 10, 0 < d.val → d.val.digitChar ≠ '0' := by decide
        exact hall ⟨n, hdigit⟩ h
      rw [decimal, Nat.toDigits_of_lt_base hdigit]
      exact fun heq => hchar (List.cons.inj heq).1
    · -- The first digit is that of a tenth of the number, which is less and no zero either.
      obtain ⟨c, digits, hcons, -⟩ := exists_decimal_eq_cons (n / 10)
      have hsplit : decimal n = c :: (digits ++ [(n % 10).digitChar]) := by
        rw [decimal, Nat.toDigits_of_base_le (by decide) hlong]
        exact congrArg (· ++ _) hcons
      rw [hsplit]
      intro heq
      rw [(List.cons.inj heq).1] at hcons
      exact ih (n / 10) (by omega) (by omega) digits hcons

theorem readNat_cons_of_ne_plus {bound : Nat} {c : Char} {s : List Char} (h : c ≠ '+') :
    readNat bound (c :: s) = readDigits bound .tooLarge 0 (c :: s) := by
  simp [readNat, h]

/-- **The text of a number is read as the number.** -/
theorem readNat_decimal {bound n : Nat} (h : n ≤ bound) : readNat bound (decimal n) = .ok n := by
  have hnumber : Nat.ofDigitChars 10 (decimal n) 0 = n := ofDecimal_decimal n
  have hread : readDigits bound .tooLarge 0 (decimal n) = .ok n := by
    rw [readDigits_eq_ofDigitChars (fun _ => isDigit_of_mem_decimal) (hnumber.trans_le h), hnumber]
  obtain ⟨c, digits, hcons, hdigit⟩ := exists_decimal_eq_cons n
  have hsign : c ≠ '+' := by
    rintro rfl
    cases hdigit
  rw [hcons] at hread ⊢
  rw [readNat_cons_of_ne_plus hsign, hread]

/-! ## Fixed-point text -/

/-- The digits behind the point of a fixed-point text, filled up with zeros. -/
def decimals (places n : Nat) : List Char := (decimal (n % 10 ^ places)).leftpad places '0'

theorem isDigit_of_mem_decimals {places n : Nat} {c : Char} (h : c ∈ decimals places n) :
    c.isDigit = true := by
  rcases List.mem_append.mp h with h | h
  · rw [List.eq_of_mem_replicate h]
    rfl
  · exact isDigit_of_mem_decimal h

/-- There are as many of them as there are places. -/
theorem length_decimals {places : Nat} (h : 0 < places) (n : Nat) :
    (decimals places n).length = places := by
  have hle : (decimal (n % 10 ^ places)).length ≤ places :=
    (Nat.length_toDigits_le_iff (by decide) h).mpr (Nat.mod_lt n (Nat.pow_pos (by decide)))
  rw [decimals, List.length_leftpad, Nat.max_eq_left hle]

/-- **The digits on both sides of the point denote the number itself**, counted in units of the
last place. -/
theorem ofDecimal_fixedPoint {places : Nat} (h : 0 < places) (n : Nat) :
    ofDecimal (decimal (n / 10 ^ places) ++ decimals places n) = n := by
  have hdecimals : Nat.ofDigitChars 10 (decimals places n) 0 = n % 10 ^ places := by
    rw [decimals, List.leftpad, Nat.ofDigitChars_append, Nat.ofDigitChars_replicate_zero,
      Nat.mul_zero]
    exact ofDecimal_decimal _
  have hwhole : Nat.ofDigitChars 10 (decimal (n / 10 ^ places)) 0 = n / 10 ^ places :=
    ofDecimal_decimal _
  calc ofDecimal (decimal (n / 10 ^ places) ++ decimals places n)
      = Nat.ofDigitChars 10 (decimals places n) (n / 10 ^ places) := by
        rw [ofDecimal, Nat.ofDigitChars_append, hwhole]
    _ = 10 ^ places * (n / 10 ^ places) + n % 10 ^ places := by
        rw [Nat.ofDigitChars_eq_ofDigitChars_zero, length_decimals h, hdecimals]
    _ = n := Nat.div_add_mod n _

namespace FloatLiteral

/-- **Fixed-point text is read as its digits**, with or without a minus sign. -/
theorem read_fixedPoint {places : Nat} (h : 0 < places) (negative : Bool) (n : Nat) :
    read ((if negative then ['-'] else []) ++ fixedPoint places n)
      = some (finite negative (decimal (n / 10 ^ places) ++ decimals places n) (-places)) := by
  have hsign : SignText (if negative then ['-'] else []) negative := by
    cases negative with
    | false => exact .none
    | true => exact .minus
  have hwhole : Digits (decimal (n / 10 ^ places)) := fun _ => isDigit_of_mem_decimal
  have hdecimals : Digits (decimals places n) := fun _ => isDigit_of_mem_decimals
  obtain ⟨c, digits, hcons, hdigit⟩ := exists_decimal_eq_cons (n / 10 ^ places)
  have htext : fixedPoint places n = c :: (digits ++ '.' :: decimals places n) := by
    rw [fixedPoint, hcons, decimals]
    rfl
  rw [htext, read_append hsign (Or.inl hdigit), ← htext]
  refine readDecimal_eq_some_iff.mpr ⟨_, _, _, [], 0, hwhole, .point hdecimals,
    List.append_ne_nil_of_left_ne_nil (decimal_ne_nil _) _, .none, ?_, ?_⟩
  · rw [List.append_nil]
    rfl
  · rw [length_decimals h, Int.zero_sub]

/-- **Rounded into a format**, fixed-point text is the pattern nearest to its number. The exponent
is never one of those that are recognised without any arithmetic. -/
theorem magnitude_fixedPoint (f : Format) {places : Nat} (h : 0 < places) (n : Nat) :
    magnitude f (decimal (n / 10 ^ places) ++ decimals places n) (-places)
      = f.nearest n (10 ^ places) := by
  have hpow : 0 < 10 ^ places := Nat.pow_pos (by decide)
  have hbits : 0 < 2 ^ f.exponentBits := Nat.two_pow_pos _
  have hlength : places ≤ (decimal (n / 10 ^ places) ++ decimals places n).length := by
    rw [List.length_append, length_decimals h]
    exact Nat.le_add_left _ _
  unfold magnitude
  rw [ofDecimal_fixedPoint h]
  dsimp only
  by_cases hzero : n = 0
  · rw [if_pos hzero, hzero, f.nearest_zero hpow]
  · rw [if_neg hzero, if_neg (by omega), if_neg (by omega), if_neg (by omega), Int.neg_neg,
      Int.toNat_natCast]

end FloatLiteral

end PeerTelemetry
