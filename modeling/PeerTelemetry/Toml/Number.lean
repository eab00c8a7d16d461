import PeerTelemetry.Number.FloatLiteral
import PeerTelemetry.Number.Numeral
import PeerTelemetry.Toml.Scanner
import PeerTelemetry.Toml.Table

/-!
# Numbers

Integers are signed and of 64 bits, decimal or, without a sign, hexadecimal, octal or
binary behind a lower-case prefix. Floating-point numbers are of 64 bits. A single
underscore may stand between two digits, and a decimal number does not begin
with a superfluous zero.

A floating-point number too large to be finite is refused when it is positive.
-/

namespace PeerTelemetry.Toml

open Scanner

/-- More digits, each alone or behind an underscore. -/
def moreDigits (p : Char → Bool) : List Char → List Char × List Char
  | [] => ([], [])
  | '_' :: c :: s =>
    if p c then
      let (digits, rest) := moreDigits p s
      (c :: digits, rest)
    else ([], '_' :: c :: s)
  | c :: s =>
    if p c then
      let (digits, rest) := moreDigits p s
      (c :: digits, rest)
    else ([], c :: s)

/-- **Digits**, at least one, and underscores between them, which are dropped. -/
def digitRun (p : Char → Bool) : Scanner (List Char) := do
  let first ← charWhere p
  fun s =>
    let (digits, rest) := moreDigits p s
    some (first :: digits, rest)

/-- A sign, if there is one, and whether it is a minus. -/
def sign : Scanner Bool := fun s => some (FloatLiteral.readSign s)

/-- The digits of a whole decimal number: a single zero, or digits that do not begin
with one. -/
def wholeDigits : Scanner (List Char) := fun
  | '0' :: s => some (['0'], s)
  | s => digitRun Char.isDigit s

/-- An integer within 64 bits. -/
def boundedInteger (n : Int) : Scanner Value := fun s =>
  if -0x8000000000000000 ≤ n ∧ n < 0x8000000000000000 then some (.integer n, s) else none

/-- An integer in a base that is a power of two. -/
def prefixedInteger (marker : String) (base : Nat) (p : Char → Bool) : Scanner Value := do
  exactly marker
  let digits ← digitRun p
  boundedInteger (digits.foldl (fun n c => base * n + (hexValue? c).getD 0) 0 : Nat)

/-- A decimal integer. -/
def decimalInteger : Scanner Value := do
  let negative ← sign
  let n := ofDecimal (← wholeDigits)
  boundedInteger (if negative then -(n : Int) else n)

/-- **An integer.** -/
def integer : Scanner Value :=
  prefixedInteger "0x" 16 isHexDigit <|>
  prefixedInteger "0o" 8 (fun c => '0' ≤ c ∧ c ≤ '7') <|>
  prefixedInteger "0b" 2 (fun c => c = '0' ∨ c = '1') <|>
  decimalInteger

/-- The decimals behind a point. -/
def fraction : Scanner (List Char) := do
  char '.'
  digitRun Char.isDigit

/-- The exponent of a floating-point number. -/
def exponent : Scanner Int := do
  char 'e' <|> char 'E'
  let negative ← sign
  let n := ofDecimal (← digitRun Char.isDigit)
  return if negative then -(n : Int) else n

/-- The decimals and the exponent of a floating-point number, which has one of them. -/
def fractionAndExponent : Scanner (List Char × Int) :=
  (do let e ← exponent
      return ([], e)) <|>
  (do let decimals ← fraction
      let e ← attempt exponent
      return (decimals, e.getD 0))

/-- The name of an infinity or a NaN. -/
def namedFloat : Scanner FloatLiteral := do
  let negative ← sign
  (do exactly "inf"
      return .infinity negative) <|>
  (do exactly "nan"
      return .nan negative)

/-- The bits of a literal in the 64-bit format. -/
def doubleBits (literal : FloatLiteral) : UInt64 :=
  UInt64.ofNat (literal.pattern Format.double)

/-- **A floating-point number.** -/
def float : Scanner Value :=
  (do let negative ← sign
      let digits ← wholeDigits
      let (decimals, e) ← fractionAndExponent
      let bits := doubleBits (.finite negative (digits ++ decimals) (e - decimals.length))
      if bits.toNat = Format.double.infinity then failure
      return .float bits) <|>
  (do let literal ← namedFloat
      return .float (doubleBits literal))

end PeerTelemetry.Toml
