/-!
# RouteTemplate.Decimal.Binary — binary floating point as exact numbers

Every finite datum of a binary format is a whole multiple of the format's least positive datum, so
a magnitude is a natural number in that unit and all arithmetic on it is exact.  `BinaryFormat.datum`
reads a bit pattern, `BinaryFormat.nearest` rounds a quotient to the nearest bit pattern, ties going
to the even one.
-/

namespace RouteTemplate

/-- A binary interchange format. -/
structure BinaryFormat where
  /-- Number of bits of the fraction field. -/
  fraction : Nat
  /-- Number of bits of the exponent field. -/
  exponent : Nat
deriving DecidableEq, Repr

namespace BinaryFormat

/-- The format of 64 bits. -/
def double : BinaryFormat := ⟨52, 11⟩

/-- The format of 32 bits. -/
def single : BinaryFormat := ⟨23, 8⟩

/-- What a bit pattern stands for.  A finite datum is its sign and its magnitude in units. -/
inductive Datum where
  | nan
  | infinite (negative : Bool)
  | finite (negative : Bool) (magnitude : Nat)
deriving DecidableEq, Repr

variable (f : BinaryFormat)

/-- The least positive datum is `2 ^ -unit`. -/
def unit : Nat := Nat.pow 2 (f.exponent - 1) - 2 + f.fraction

/-- The bit pattern of positive infinity, which is above those of all positive finite data. -/
def infinity : Nat := (Nat.pow 2 f.exponent - 1) * Nat.pow 2 f.fraction

/-- The bit that holds the sign. -/
def signBit : Nat := Nat.pow 2 (f.exponent + f.fraction)

/-- The bit pattern of a datum that is not a number. -/
def quietNaN : Nat := f.infinity + Nat.pow 2 (f.fraction - 1)

/-- Whether the sign bit of a pattern is set. -/
def isNegative (bits : Nat) : Bool := bits / f.signBit % 2 = 1

/-- A pattern without its sign. -/
def absolute (bits : Nat) : Nat := bits % f.signBit

/-- How many units two neighbouring magnitudes lie apart, from a pattern without sign. -/
def step (bits : Nat) : Nat := Nat.pow 2 (bits / Nat.pow 2 f.fraction - 1)

/-- The magnitude of a finite pattern without sign, in units. -/
def magnitude (bits : Nat) : Nat :=
  if bits / Nat.pow 2 f.fraction = 0 then bits
  else (Nat.pow 2 f.fraction + bits % Nat.pow 2 f.fraction) * f.step bits

/-- Reads a bit pattern. -/
def datum (bits : Nat) : Datum :=
  let a := f.absolute bits
  if f.infinity < a then .nan
  else if a = f.infinity then .infinite (f.isNegative bits)
  else .finite (f.isNegative bits) (f.magnitude a)

/-- A quotient rounded to the nearest whole number, ties going to the even one. -/
def divideNearest (num den : Nat) : Nat :=
  let q := num / den
  let r := num % den
  if 2 * r < den then q
  else if den < 2 * r then q + 1
  else q + q % 2

/-- The pattern without sign that is nearest to `num / den`.  A significand that rounds up to the
next power of two carries into the exponent field, and past the greatest finite datum the result is
infinity. -/
def nearest (num den : Nat) : Nat :=
  let units := num * Nat.pow 2 f.unit
  let shift := Nat.log2 (units / den) - f.fraction
  min f.infinity (shift * Nat.pow 2 f.fraction + divideNearest units (den * Nat.pow 2 shift))

/-- A pattern without sign, given one. -/
def withSign (negative : Bool) (bits : Nat) : Nat :=
  if negative then f.signBit + bits else bits

/-- The bit pattern of a datum that another format holds. -/
def encode (g : BinaryFormat) : Datum → Nat
  | .nan => f.quietNaN
  | .infinite negative => f.withSign negative f.infinity
  | .finite negative m => f.withSign negative (f.nearest m (Nat.pow 2 g.unit))

end BinaryFormat

/-- A single-precision pattern widened to double precision, which changes no value. -/
def widen (bits : Nat) : Nat :=
  BinaryFormat.double.encode BinaryFormat.single (BinaryFormat.single.datum bits)

end RouteTemplate
