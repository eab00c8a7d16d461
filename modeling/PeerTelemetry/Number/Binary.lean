/-!
# Binary floating-point patterns

A floating-point number is handled here as the natural number its bits form,
never as a machine float: a pattern keeps what a float comparison forgets (the
sign of a zero, the payload of a NaN), and everything about it can be computed
exactly.

Every rounded number in this library is one quotient of naturals, rounded once,
to the nearest integer, with a half going to the even neighbour. Fixed-point
text rounds a scaled value that way, and so does the reading of a decimal into
a binary format.

The magnitudes of a format are the multiples of its least positive number that
have few enough significant bits. A magnitude is therefore counted in *units*
of that least number, which makes it a natural number with no exponent to carry
along: `Format.units` reads a pattern, and `Format.nearest` finds the pattern
of the magnitude nearest to a fraction.

Both rest on one fact. With `k` the binary exponent and `m` the significand, its
leading bit included, the pattern of `m * 2 ^ k` is `k * 2 ^ fractionBits + m`.
It is the pattern of the next binade as well when rounding carries `m` to the
next power of two, and infinity comes right behind the largest finite number, so
no case distinction is needed at either place.
-/

namespace PeerTelemetry

-- Powers of numbers are the core library's own, whatever algebra is loaded besides.
attribute [local instance (high)] instPowNat

/-! ## Rounding a quotient -/

/-- **The integer nearest to `n / d`**, a half going to the even neighbour. -/
def roundDiv (n d : Nat) : Nat :=
  let q := n / d
  let twice := 2 * (n % d)
  if twice < d then q else if d < twice then q + 1 else q + q % 2

/-- The rounded quotient is within half a unit of the quotient. -/
theorem roundDiv_error_le {n d : Nat} (hd : 0 < d) :
    2 * n ≤ 2 * (d * roundDiv n d) + d ∧ 2 * (d * roundDiv n d) ≤ 2 * n + d := by
  have hdiv := Nat.div_add_mod n d
  have hmod := Nat.mod_lt n hd
  have hstep : d * (n / d + 1) = d * (n / d) + d := Nat.mul_succ d (n / d)
  unfold roundDiv
  dsimp only
  split
  · omega
  · split
    · omega
    · rcases Nat.mod_two_eq_zero_or_one (n / d) with h | h <;> simp only [h, Nat.add_zero] <;> omega

/-- Exactly half a unit away, the even neighbour is taken. -/
theorem roundDiv_even_of_tie {n d : Nat} (h : 2 * (n % d) = d) : roundDiv n d % 2 = 0 := by
  simp only [roundDiv, h, Nat.lt_irrefl, if_false]
  omega

/-- A whole quotient is not changed. -/
@[simp] theorem roundDiv_mul_left {d : Nat} (hd : 0 < d) (q : Nat) : roundDiv (d * q) d = q := by
  simp [roundDiv, Nat.mul_div_cancel_left q hd, hd]

/-! ## Formats -/

/-- **A binary format**: a sign bit, `exponentBits` bits of exponent and
`fractionBits` bits of significand. -/
structure Format where
  fractionBits : Nat
  exponentBits : Nat
  deriving DecidableEq

namespace Format

/-- The 32-bit format. -/
def single : Format := ⟨23, 8⟩

/-- The 64-bit format. -/
def double : Format := ⟨52, 11⟩

/-- The least positive number of the format is `2 ^ -scale`. -/
def scale (f : Format) : Nat := 2 ^ (f.exponentBits - 1) - 2 + f.fractionBits

/-- The pattern of positive infinity; larger magnitudes are those of NaNs. -/
def infinity (f : Format) : Nat := (2 ^ f.exponentBits - 1) * 2 ^ f.fractionBits

/-- The pattern of the quiet NaN without payload. -/
def quietNaN (f : Format) : Nat := f.infinity + 2 ^ (f.fractionBits - 1)

/-- The sign bit. -/
def signBit (f : Format) : Nat := 2 ^ (f.exponentBits + f.fractionBits)

/-- **The magnitude of a pattern without sign**, counted in units of the least
positive number. Beyond the finite patterns it goes on as if the exponent had
room, which places infinity where the next number would be. -/
def units (f : Format) (pattern : Nat) : Nat :=
  let exponent := pattern / 2 ^ f.fractionBits
  let fraction := pattern % 2 ^ f.fractionBits
  if exponent = 0 then fraction else (2 ^ f.fractionBits + fraction) * 2 ^ (exponent - 1)

/-- **The pattern nearest to `n / d`**, ties going to the even significand, and
infinity from half a unit beyond the largest finite number on. -/
def nearest (f : Format) (n d : Nat) : Nat :=
  let scaled := n * 2 ^ f.scale
  let k := (scaled / d).log2 - f.fractionBits
  min (k * 2 ^ f.fractionBits + roundDiv scaled (d * 2 ^ k)) f.infinity

@[simp] theorem scale_single : single.scale = 149 := by decide
@[simp] theorem infinity_single : single.infinity = 0x7F800000 := by decide

end Format

end PeerTelemetry
