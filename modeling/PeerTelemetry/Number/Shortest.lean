import PeerTelemetry.Number.Binary
import PeerTelemetry.Number.Numeral

/-!
# Shortest decimal text

The shortest decimal that reads back as a given floating-point number. The decimals
that read back as a number are those nearer to it than to either neighbour; the ends of
that interval belong to it when its significand is even, because ties are
rounded to even. Among the grids of the multiples of a power of ten, the coarsest that has a
point in the interval gives the fewest digits, and of its points in the interval the
one nearest to the number is taken; a number halfway between two of them goes up.
-/

namespace PeerTelemetry

-- Powers of numbers are the core library's own, whatever algebra is loaded besides.
attribute [local instance (high)] instPowNat

namespace Format

/-- **Whether a decimal reads back** as a positive number: whether it is in the interval
of what rounds to the number. The decimal is counted in the same steps as the ends of
the interval. -/
def readsBack (f : Format) (pattern up decimal : Nat) : Bool :=
  let low := (f.units (pattern - 1) + f.units pattern) * up
  let high := (f.units pattern + f.units (pattern + 1)) * up
  if pattern % 2 = 0 then low ≤ decimal && decimal ≤ high else low < decimal && decimal < high

/-- The multiple `c` of `10 ^ j` that reads back as a positive number and is nearest to it.
Everything is counted in halves of `2 ^ -scale`, refined where `j` is negative. -/
def gridPoint? (f : Format) (pattern : Nat) (j : Int) : Option Nat :=
  let up := if j < 0 then 10 ^ (-j).toNat else 1
  let step := 2 * 2 ^ f.scale * (if 0 ≤ j then 10 ^ j.toNat else 1)
  let value := 2 * f.units pattern * up
  let below := value / step
  let (near, far) :=
    if step ≤ 2 * (value % step) then (below + 1, below) else (below, below + 1)
  [near, far].find? fun c => f.readsBack pattern up (c * step)

/-- Looks for a grid point from `10 ^ j` on downwards. -/
def searchGrid (f : Format) (pattern : Nat) : Nat → Int → Option (Nat × Int)
  | 0, _ => none
  | budget + 1, j =>
    match f.gridPoint? pattern j with
    | some c => some (c, j)
    | none => searchGrid f pattern budget (j - 1)

/-- **The shortest decimal** `c * 10 ^ j` that reads back as a positive number. The search
begins above the number, and it ends at the latest with the exact value, which is
a multiple of `10 ^ -scale`. -/
def shortest (f : Format) (pattern : Nat) : Nat × Int :=
  let digits := (decimal (f.units pattern / 2 ^ f.scale)).length
  (f.searchGrid pattern (digits + f.scale + 1) digits).getD (0, 0)

/-- The text of `c * 10 ^ j` without an exponent, and with at least one decimal. -/
def positional (c : Nat) (j : Int) : List Char :=
  if j < 0 then fixedPoint (-j).toNat c else decimal (c * 10 ^ j.toNat) ++ ".0".toList

/-- **The text of a floating-point number**, with a point and without an exponent. -/
def text (f : Format) (pattern : Nat) : List Char :=
  let magnitude := pattern % f.signBit
  if f.infinity < magnitude then "NaN".toList
  else
    (if f.signBit ≤ pattern then ['-'] else []) ++
      if magnitude = f.infinity then "inf".toList
      else if magnitude = 0 then "0.0".toList
      else
        let (c, j) := f.shortest magnitude
        positional c j

end Format

end PeerTelemetry
