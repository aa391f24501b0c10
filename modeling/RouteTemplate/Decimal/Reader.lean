import RouteTemplate.Decimal.Shortest

/-!
# RouteTemplate.Decimal.Reader — reading numbers

A whole number is an optional sign and digits.  A floating-point number is an optional sign and then
either digits with an optional point and an optional exponent, or one of the words `inf`, `infinity`
and `nan` in any case.  The value read is the pattern nearest to the decimal, ties going to even.
-/

namespace RouteTemplate

/-- The value of a decimal digit. -/
def digitValue? (c : Char) : Option Nat :=
  if '0' ≤ c ∧ c ≤ '9' then some (c.toNat - '0'.toNat) else none

/-- The number that a text of digits alone writes, counted on from `start`. -/
def digitsFrom? (start : Nat) : List Char → Option Nat
  | [] => some start
  | c :: cs => (digitValue? c).bind fun d => digitsFrom? (start * 10 + d) cs

/-- A non-empty text of digits. -/
def natural? : List Char → Option Nat
  | [] => none
  | c :: cs => digitsFrom? 0 (c :: cs)

/-- A whole number with an optional sign. -/
def integer? : List Char → Option Int
  | '-' :: cs => (natural? cs).map fun n => -(n : Int)
  | '+' :: cs => (natural? cs).map fun n => (n : Int)
  | cs => (natural? cs).map fun n => (n : Int)

/-- A whole number with an optional plus sign; a minus sign is refused even before zero. -/
def unsigned? : List Char → Option Nat
  | '+' :: cs => natural? cs
  | cs => natural? cs

namespace Decimal

/-- The text after an optional sign, and whether the sign is a minus. -/
def splitSign : List Char → Bool × List Char
  | '-' :: cs => (true, cs)
  | '+' :: cs => (false, cs)
  | cs => (false, cs)

/-- The digits at the front of a text, and what follows them. -/
def spanDigits (cs : List Char) : List Char × List Char :=
  cs.span fun c => (digitValue? c).isSome

/-- The exponent at the end of a number: nothing, or `e` of either case, an optional sign and
digits. -/
def exponent? : List Char → Option Int
  | [] => some 0
  | c :: cs =>
    if c = 'e' ∨ c = 'E' then
      let (negative, ds) := splitSign cs
      (natural? ds).map fun n => if negative then -(n : Int) else n
    else none

/-- The fraction digits that follow the whole part, and what comes after them. -/
def spanFraction : List Char → List Char × List Char
  | '.' :: cs => spanDigits cs
  | cs => ([], cs)

/-- A number without sign: digits with an optional point, at least one digit, and an optional
exponent. -/
def ofText? (cs : List Char) : Option Decimal :=
  let (whole, rest) := spanDigits cs
  let (fraction, tail) := spanFraction rest
  if whole.isEmpty && fraction.isEmpty then none
  else
    match natural? (whole ++ fraction), exponent? tail with
    | some c, some e => some ⟨c, e - fraction.length⟩
    | _, _ => none

/-- The pattern without sign that is nearest to a decimal.  Magnitudes far outside the format's
range need no division. -/
def nearest (f : BinaryFormat) (d : Decimal) : Nat :=
  let top := digitCount d.coefficient + d.exponent
  if d.coefficient = 0 then 0
  else if (f.unit : Int) < top then f.infinity
  else if top < -(f.unit : Int) then 0
  else if 0 ≤ d.exponent then f.nearest (d.coefficient * Nat.pow 10 d.exponent.toNat) 1
  else f.nearest d.coefficient (Nat.pow 10 d.exponent.natAbs)

end Decimal

namespace FloatText

/-- An ASCII letter in lower case; any other character as it is. -/
def asciiLower (c : Char) : Char :=
  if 'A' ≤ c ∧ c ≤ 'Z' then Char.ofNat (c.toNat + 32) else c

/-- The pattern without sign that a word in place of digits stands for. -/
def word? (f : BinaryFormat) (cs : List Char) : Option Nat :=
  let w := cs.map asciiLower
  if w = "inf".toList ∨ w = "infinity".toList then some f.infinity
  else if w = "nan".toList then some f.quietNaN
  else none

/-- Reads the text of a floating-point number. -/
def read? (f : BinaryFormat) (cs : List Char) : Option Nat :=
  let (negative, body) := Decimal.splitSign cs
  let magnitude :=
    match Decimal.ofText? body with
    | some d => some (d.nearest f)
    | none => word? f body
  magnitude.map (f.withSign negative)

end FloatText

end RouteTemplate
