import PeerTelemetry.Number.Numeral

/-!
# Reading bounded integers

Decimal integers as they stand on a command line or in a peer record: an optional
sign, then digits, leading zeros allowed, within the bounds of the type that is
read. Digits are taken from left to right, and the first thing that goes wrong is
what the reader blames: a number that has grown too large is too large, whatever
stands behind it, and a character that is no digit is noticed before the number
it would have belonged to.
-/

namespace PeerTelemetry

/-- **Why a text is not an integer of the wanted type.** -/
inductive IntegerError
  | empty
  | invalidDigit
  | tooLarge
  | tooSmall
  deriving DecidableEq, Repr

/-- The wording of the error. -/
def IntegerError.message : IntegerError → String
  | empty => "cannot parse integer from empty string"
  | invalidDigit => "invalid digit found in string"
  | tooLarge => "number too large to fit in target type"
  | tooSmall => "number too small to fit in target type"

/-- **Reads digits** behind a number already read, up to a bound that must not be
passed; passing it is the given error. -/
def readDigits (bound : Nat) (beyond : IntegerError) : Nat → List Char → Except IntegerError Nat
  | n, [] => .ok n
  | n, c :: s =>
    if c.isDigit = false then .error .invalidDigit
    else
      let next := 10 * n + (c.toNat - '0'.toNat)
      if bound < next then .error beyond else readDigits bound beyond next s

/-- **Reads a natural number** up to a bound, with an optional plus sign. -/
def readNat (bound : Nat) : List Char → Except IntegerError Nat
  | [] => .error .empty
  | ['+'] => .error .invalidDigit
  | '+' :: s => readDigits bound .tooLarge 0 s
  | s => readDigits bound .tooLarge 0 s

/-- **Reads a signed 64-bit integer**, with an optional sign. -/
def readInt64 : List Char → Except IntegerError Int
  | [] => .error .empty
  | ['+'] => .error .invalidDigit
  | ['-'] => .error .invalidDigit
  | '+' :: s => (readDigits 0x7FFFFFFFFFFFFFFF .tooLarge 0 s).map Int.ofNat
  | '-' :: s => (readDigits 0x8000000000000000 .tooSmall 0 s).map fun n => -(n : Int)
  | s => (readDigits 0x7FFFFFFFFFFFFFFF .tooLarge 0 s).map Int.ofNat

end PeerTelemetry
