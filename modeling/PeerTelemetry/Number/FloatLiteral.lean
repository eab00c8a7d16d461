import PeerTelemetry.Number.Binary
import PeerTelemetry.Number.Numeral

/-!
# Float literals

The text of a floating-point number, as an operator types it: an optional sign,
then `inf`, `infinity` or `nan` in any case, or decimal digits with at most one
point among them, at least one digit, and an optional decimal exponent.

A literal denotes a rational number, and is rounded once, to the nearest number
of the format. Its exponent may be far out of the range of any format, so a
magnitude that is certain to overflow or to vanish is recognised from the
exponent before any power of ten is formed.
-/

namespace PeerTelemetry

-- Powers of numbers are the core library's own, whatever algebra is loaded besides.
attribute [local instance (high)] instPowNat

/-- **A float literal**, taken apart. A `finite` one denotes its digits, read as
one integer, times ten to its exponent. -/
inductive FloatLiteral
  | nan (negative : Bool)
  | infinity (negative : Bool)
  | finite (negative : Bool) (digits : List Char) (exponent : Int)
  deriving DecidableEq, Repr

namespace FloatLiteral

/-! ## Reading -/

/-- An optional sign, and whether it was a minus. -/
def readSign : List Char → Bool × List Char
  | '+' :: s => (false, s)
  | '-' :: s => (true, s)
  | s => (false, s)

/-- The exponent behind the digits, zero if there is none. -/
def readExponent : List Char → Option Int
  | [] => some 0
  | c :: s =>
    if c = 'e' ∨ c = 'E' then
      let (negative, digits) := readSign s
      if digits ≠ [] ∧ digits.all Char.isDigit then
        some (if negative then -(ofDecimal digits : Int) else ofDecimal digits)
      else none
    else none

/-- The digits behind an optional point, and what follows them. -/
def readFraction : List Char → List Char × List Char
  | '.' :: s => (s.takeWhile Char.isDigit, s.dropWhile Char.isDigit)
  | s => ([], s)

/-- Digits, an optional point with more digits, an optional exponent, and no
more. Digits behind the point lower the exponent, one each. -/
def readDecimal (negative : Bool) (s : List Char) : Option FloatLiteral :=
  let whole := s.takeWhile Char.isDigit
  let (fraction, rest) := readFraction (s.dropWhile Char.isDigit)
  if whole ++ fraction = [] then none
  else (readExponent rest).map fun e => finite negative (whole ++ fraction) (e - fraction.length)

/-- **Reads a literal**, all of it. -/
def read (s : List Char) : Option FloatLiteral :=
  let (negative, s) := readSign s
  let word := s.map Char.toLower
  if word = "inf".toList ∨ word = "infinity".toList then some (infinity negative)
  else if word = "nan".toList then some (nan negative)
  else readDecimal negative s

/-! ## Rounding into a format -/

/-- The magnitude nearest to `digits * 10 ^ exponent`. From `2 ^ exponentBits`
on, an exponent takes any nonzero integer past the largest number; and
`n` digits with an exponent below `-(scale + n)` stay under half the least
positive number. -/
def magnitude (f : Format) (digits : List Char) (exponent : Int) : Nat :=
  let coefficient := ofDecimal digits
  if coefficient = 0 then 0
  else if (2 ^ f.exponentBits : Nat) ≤ exponent then f.infinity
  else if exponent + digits.length < -(f.scale : Int) then 0
  else if 0 ≤ exponent then f.nearest (coefficient * 10 ^ exponent.toNat) 1
  else f.nearest coefficient (10 ^ (-exponent).toNat)

/-- **The pattern of a literal** in a format: the nearest number, ties to even,
with the sign kept on zeros, infinities and NaNs too. -/
def pattern (f : Format) : FloatLiteral → Nat
  | nan negative => (if negative then f.signBit else 0) + f.quietNaN
  | infinity negative => (if negative then f.signBit else 0) + f.infinity
  | finite negative digits exponent =>
    (if negative then f.signBit else 0) + magnitude f digits exponent

end FloatLiteral

end PeerTelemetry
