import RouteTemplate.Decimal.Shortest

/-!
# RouteTemplate.Decimal.Notation — the text of a floating-point value

A magnitude from `10 ^ -6` up to but not including `10 ^ 21` is written without exponent, any other
one as a digit, its fraction and a signed exponent.  Neither form has zeros to spare.
-/

namespace RouteTemplate

namespace Decimal

/-- The text of a decimal without exponent, from its digits and the number `point` of digits in
front of the decimal point. -/
def plainDigits (ds : List Char) (point : Int) : List Char :=
  if point ≤ 0 then
    '0' :: '.' :: List.replicate point.natAbs '0' ++ ds
  else if ds.length ≤ point.toNat then
    ds ++ List.replicate (point.toNat - ds.length) '0'
  else
    ds.take point.toNat ++ '.' :: ds.drop point.toNat

/-- The text of a decimal with exponent: one digit, the others after a point, and the exponent with
its sign. -/
def scientificDigits (ds : List Char) (point : Int) : List Char :=
  let power := point - 1
  let fraction := if ds.length ≤ 1 then [] else '.' :: ds.drop 1
  let sign := if power < 0 then '-' else '+'
  ds.take 1 ++ fraction ++ 'e' :: sign :: Nat.toDigits 10 power.natAbs

/-- The number of digits in front of the decimal point; zero or less if the first digit comes
after it. -/
def point (d : Decimal) : Int := d.digits.length + d.exponent

/-- A decimal without exponent. -/
def plain (d : Decimal) : List Char := plainDigits d.digits d.point

/-- A decimal with exponent. -/
def scientific (d : Decimal) : List Char := scientificDigits d.digits d.point

end Decimal

namespace FloatText

/-- The least magnitude written without exponent. -/
def plainFrom : Nat := BinaryFormat.double.nearest 1 (Nat.pow 10 6)

/-- The least magnitude above those written without exponent. -/
def plainBelow : Nat := BinaryFormat.double.nearest (Nat.pow 10 21) 1

/-- The text of a finite, non-zero double-precision pattern without sign. -/
def renderMagnitude (bits : Nat) : List Char :=
  let d := BinaryFormat.double.shortest bits
  if plainFrom ≤ bits ∧ bits < plainBelow then d.plain else d.scientific

/-- The text of a double-precision pattern. -/
def render (bits : Nat) : List Char :=
  match BinaryFormat.double.datum bits with
  | .nan => "NaN".toList
  | .infinite negative => if negative then "-Infinity".toList else "Infinity".toList
  | .finite negative m =>
    if m = 0 then ['0']
    else
      let text := renderMagnitude (BinaryFormat.double.absolute bits)
      if negative then '-' :: text else text

end FloatText

end RouteTemplate
