import PeerTelemetry.Number.Binary
import PeerTelemetry.Number.Numeral

/-!
# Round-trip times

A round-trip time travels as a 32-bit floating-point number of microseconds,
and a sender that has no sample for a peer sends a negative number in its
place. What is *not* at least zero – a negative number, and a NaN as well – is
therefore read as "no sample".

The bits are kept as they arrived. Two different patterns can be the same
number, as the two zeros are, and a NaN is not even the same number as itself;
so equality of round-trip times is equality of bits, and equality of the numbers
they stand for is `Rtt.sameValue`.
-/

namespace PeerTelemetry

-- Powers of numbers are the core library's own, whatever algebra is loaded besides.
attribute [local instance (high)] instPowNat

/-- **A round-trip time**: the bits of a 32-bit floating-point number of
microseconds. -/
structure Rtt where
  bits : UInt32
  deriving DecidableEq, Repr

namespace Rtt

/-- The number a sender writes when it has no sample, minus one. -/
def unknown : Rtt := ⟨0xBF800000⟩

/-- Whether the sign bit is set. -/
def negative (rtt : Rtt) : Bool := Format.single.signBit ≤ rtt.bits.toNat

/-- The pattern without its sign. -/
def magnitude (rtt : Rtt) : Nat := rtt.bits.toNat % Format.single.signBit

/-- Whether the pattern is a NaN. -/
def isNaN (rtt : Rtt) : Bool := Format.single.infinity < rtt.magnitude

/-- Whether the pattern is one of the two zeros. -/
def isZero (rtt : Rtt) : Bool := rtt.magnitude = 0

/-- **Whether there is a sample**: the number is at least zero. The negative
zero is. -/
def isSample (rtt : Rtt) : Bool := !rtt.isNaN && (!rtt.negative || rtt.isZero)

/-- The sample, if there is one. -/
def sample? (rtt : Rtt) : Option Rtt := if rtt.isSample then some rtt else none

/-- **Equality of the numbers**: a NaN equals nothing, and the two zeros are
equal. -/
def sameValue (a b : Rtt) : Bool :=
  !a.isNaN && !b.isNaN && (a = b || a.isZero && b.isZero)

/-- The thousandths of a microsecond that are shown: the nearest integer to a
thousand times the number, a half going to the even neighbour. -/
def thousandths (rtt : Rtt) : Nat :=
  roundDiv (1000 * Format.single.units rtt.magnitude) (2 ^ Format.single.scale)

/-- The number as shown, without its unit: three decimals, or `inf`. -/
def numeral (rtt : Rtt) : List Char :=
  if rtt.magnitude = Format.single.infinity then "inf".toList
  else (if rtt.negative then ['-'] else []) ++ fixedPoint 3 rtt.thousandths

/-- What stands in the place of a sample that is not there. -/
def unavailable : List Char := "n/a".toList

/-- **The text of a round-trip time**, as an operator sees it. -/
def text (rtt : Rtt) : List Char :=
  if rtt.isSample then rtt.numeral ++ " us".toList else unavailable

@[simp] theorem text_of_isSample {rtt : Rtt} (h : rtt.isSample = true) :
    rtt.text = rtt.numeral ++ " us".toList := by
  simp [text, h]

@[simp] theorem text_of_not_isSample {rtt : Rtt} (h : rtt.isSample = false) :
    rtt.text = unavailable := by
  simp [text, h]

end Rtt

end PeerTelemetry
