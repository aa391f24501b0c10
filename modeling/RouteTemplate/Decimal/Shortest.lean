import RouteTemplate.Decimal.Binary

/-!
# RouteTemplate.Decimal.Shortest — the fewest digits that read back

A finite magnitude is a whole number of units `2 ^ -unit`, hence also a whole number of units
`10 ^ -unit` (`2 ^ -unit = 5 ^ unit / 10 ^ unit`), and so are, after a factor of four, the ends of
the interval of reals that round to it.  The digits are looked for on coarser decimal grids first;
on each grid only the two neighbours of the magnitude can be the nearest hit.
-/

namespace RouteTemplate

/-- A non-negative decimal number `coefficient * 10 ^ exponent`. -/
structure Decimal where
  coefficient : Nat
  exponent : Int
deriving DecidableEq, Repr

namespace Decimal

/-- The digits of the coefficient, most significant first. -/
def digits (d : Decimal) : List Char := Nat.toDigits 10 d.coefficient

/-- How many digits a number has in decimal notation. -/
def digitCount (n : Nat) : Nat := (Nat.toDigits 10 n).length

/-- A decimal whose coefficient loses the zeros at its end, at most `fuel` of them. -/
def trimZeros : Nat → Decimal → Decimal
  | 0, d => d
  | fuel + 1, d =>
    if d.coefficient % 10 = 0 then trimZeros fuel ⟨d.coefficient / 10, d.exponent + 1⟩ else d

/-- The reals that round to a magnitude, all numbers in one unit. -/
structure Interval where
  low : Nat
  value : Nat
  high : Nat
  /-- Whether the ends belong to the interval. -/
  closed : Bool
deriving Repr

/-- Whether a number lies in the interval. -/
def Interval.holds (i : Interval) (n : Nat) : Bool :=
  if i.closed then i.low ≤ n && n ≤ i.high else i.low < n && n < i.high

/-- The multiple of `grid` in the interval that is nearest to the value, divided by `grid`; a tie
goes to the greater multiple. -/
def Interval.onGrid? (i : Interval) (grid : Nat) : Option Nat :=
  let below := i.value / grid
  let above := below + 1
  match i.holds (below * grid), i.holds (above * grid) with
  | true, true => if 2 * (i.value - below * grid) < grid then some below else some above
  | true, false => some below
  | false, true => some above
  | false, false => none

/-- The first hit on the grids with `count`, `count + 1`, … digits, with the number of digits that
the grid leaves out; the value itself if `fuel` grids have none. -/
def Interval.coarsest (i : Interval) (unitsPerOne : Nat) (length : Nat) : Nat → Nat → Nat × Nat
  | 0, _ => (i.value / unitsPerOne, 0)
  | fuel + 1, count =>
    match i.onGrid? (unitsPerOne * Nat.pow 10 (length - count)) with
    | some c => (c, length - count)
    | none => i.coarsest unitsPerOne length fuel (count + 1)

end Decimal

namespace BinaryFormat

variable (f : BinaryFormat)

/-- The reals that round to a finite pattern without sign, in units of `10 ^ -unit / 4`.  Below a
power of two the patterns lie twice as close as above it, the least normal one excepted. -/
def interval (bits : Nat) : Decimal.Interval :=
  let scale := Nat.pow 5 f.unit
  let m := f.magnitude bits
  let s := f.step bits
  let isPower := bits % Nat.pow 2 f.fraction = 0 ∧ 1 < bits / Nat.pow 2 f.fraction
  { low := (4 * m - (if isPower then s else 2 * s)) * scale
    value := 4 * m * scale
    high := (4 * m + 2 * s) * scale
    closed := bits % 2 = 0 }

/-- The shortest decimal that reads back as a finite, non-zero pattern without sign, and among those
the nearest to it. -/
def shortest (bits : Nat) : Decimal :=
  let i := f.interval bits
  let length := Decimal.digitCount (i.value / 4)
  let (c, dropped) := i.coarsest 4 length 17 1
  (Decimal.mk c (dropped - f.unit)).trimZeros length

end BinaryFormat

end RouteTemplate
