/-!
# Numerals

The text of a natural number, in decimal and in hexadecimal digits, and of a number with a
fixed count of decimals. A number with `p` decimals is kept as the integer `n` of its units in
the last place, so that rounding is over before the first digit is written. Hexadecimal numbers
are written in lower case and read in either.
-/

namespace PeerTelemetry

-- Powers of numbers are the core library's own, whatever algebra is loaded besides.
attribute [local instance (high)] instPowNat

/-! ## Decimal text -/

/-- **The decimal digits of a number**, most significant first; zero is one digit. -/
def decimal (n : Nat) : List Char := Nat.toDigits 10 n

/-- **The number that decimal digits denote**; no digits denote zero. -/
def ofDecimal (digits : List Char) : Nat := Nat.ofDigitChars 10 digits 0

@[simp] theorem ofDecimal_decimal (n : Nat) : ofDecimal (decimal n) = n :=
  Nat.ofDigitChars_toDigits (by decide) (by decide)

/-- Equal texts are texts of equal numbers. -/
theorem decimal_injective {m n : Nat} (h : decimal m = decimal n) : m = n := by
  rw [← ofDecimal_decimal m, h, ofDecimal_decimal]

theorem decimal_ne_nil (n : Nat) : decimal n ≠ [] := Nat.toDigits_ne_nil

theorem isDigit_of_mem_decimal {n : Nat} {c : Char} (h : c ∈ decimal n) : c.isDigit = true :=
  Nat.isDigit_of_mem_toDigits (by decide) (by decide) h

/-- **Fixed-point text**: the number `n / 10 ^ places` with exactly `places`
digits behind the point. -/
def fixedPoint (places n : Nat) : List Char :=
  decimal (n / 10 ^ places) ++ '.' :: (decimal (n % 10 ^ places)).leftpad places '0'

/-! ## Hexadecimal text -/

/-- **The hexadecimal digits of a number**, most significant first; zero is one digit. -/
def hexadecimal (n : Nat) : List Char := Nat.toDigits 16 n

/-- The value of a hexadecimal digit. -/
def hexValue? (c : Char) : Option Nat :=
  if c.isDigit then some (c.toNat - '0'.toNat)
  else if 'a' ≤ c ∧ c ≤ 'f' then some (c.toNat - 'a'.toNat + 10)
  else if 'A' ≤ c ∧ c ≤ 'F' then some (c.toNat - 'A'.toNat + 10)
  else none

/-- Whether a character is a hexadecimal digit. -/
def isHexDigit (c : Char) : Bool := (hexValue? c).isSome

/-- **The number that hexadecimal digits denote**; no digits denote zero. -/
def ofHexadecimal (digits : List Char) : Nat :=
  digits.foldl (fun n c => 16 * n + (hexValue? c).getD 0) 0

/-- A digit that is written is read as its value. -/
theorem hexValue?_digitChar {n : Nat} (h : n < 16) : hexValue? n.digitChar = some n := by
  have hall : ∀ d : Fin 16, hexValue? d.val.digitChar = some d.val := by decide
  exact hall ⟨n, h⟩

/-- The last digit counts one, and those in front of it sixteen each. -/
theorem ofHexadecimal_concat (digits : List Char) (c : Char) :
    ofHexadecimal (digits ++ [c]) = 16 * ofHexadecimal digits + (hexValue? c).getD 0 := by
  rw [ofHexadecimal, List.foldl_append]
  rfl

@[simp] theorem ofHexadecimal_hexadecimal (n : Nat) : ofHexadecimal (hexadecimal n) = n := by
  unfold hexadecimal
  induction n using Nat.strongRecOn with
  | ind n ih =>
    rcases Nat.lt_or_ge n 16 with hdigit | hlong
    · have hvalue : ofHexadecimal [n.digitChar] = 16 * 0 + (hexValue? n.digitChar).getD 0 := rfl
      rw [Nat.toDigits_of_lt_base hdigit, hvalue, hexValue?_digitChar hdigit]
      exact Nat.zero_add n
    · rw [Nat.toDigits_of_base_le (by decide) hlong, ofHexadecimal_concat, ih (n / 16) (by omega),
        hexValue?_digitChar (Nat.mod_lt n (by decide))]
      exact Nat.div_add_mod n 16

end PeerTelemetry
