import Mathlib.Algebra.Order.Field.Rat
import Mathlib.Algebra.Order.Ring.Abs
import Mathlib.Tactic.Linarith
import Mathlib.Tactic.NormNum
import Mathlib.Tactic.Positivity
import RouteTemplate.Decimal.Notation
import RouteTemplate.Proofs.Rounding

/-!
# RouteTemplate.Proofs.Interval — the interval of a pattern

The interval that the digits of a pattern are looked for in holds exactly the decimals that round to
the pattern (`BinaryFormat.contains_iff_roundsTo`).  Numbers are compared as rational numbers here,
in the unit of the interval, a quarter of `10 ^ -unit`.
-/

namespace RouteTemplate

namespace Decimal

namespace Interval

variable {i : Interval} {x y z : ℚ}

/-- A number that lies in the interval. -/
def Contains (i : Interval) (x : ℚ) : Prop :=
  if i.closed then i.low ≤ x ∧ x ≤ i.high else i.low < x ∧ x < i.high

theorem holds_eq_true_iff {n : ℕ} : i.holds n = true ↔ i.Contains n := by
  rw [holds, Contains]
  split_ifs <;> simp

/-- An interval holds what lies between two of its numbers. -/
theorem Contains.convex (hx : i.Contains x) (hz : i.Contains z) (hxy : x ≤ y) (hyz : y ≤ z) :
    i.Contains y := by
  rw [Contains] at *
  split_ifs at * with hclosed
  · exact ⟨hx.1.trans hxy, hyz.trans hz.2⟩
  · exact ⟨hx.1.trans_le hxy, hyz.trans_lt hz.2⟩

end Interval

/-! ### Values -/

variable {d d' : Decimal}

/-- The number that a decimal writes. -/
def toRat (d : Decimal) : ℚ := d.coefficient * 10 ^ d.exponent

theorem toRat_mul_den (d : Decimal) : d.toRat * d.den = d.num := by
  have hexp : d.exponent + ((-d.exponent).toNat : ℤ) = (d.exponent.toNat : ℤ) := by
    have := d.exponent_eq
    omega
  rw [toRat, den, num]
  push_cast
  rw [mul_assoc, ← zpow_natCast, ← zpow_natCast, ← zpow_add₀ (by norm_num), hexp]

theorem toRat_le_iff : d.toRat ≤ d'.toRat ↔ d.num * d'.den ≤ d'.num * d.den := by
  have hden : (0 : ℚ) < d.den := by exact_mod_cast d.den_pos
  have hden' : (0 : ℚ) < d'.den := by exact_mod_cast d'.den_pos
  have hnum : ((d.num * d'.den : ℕ) : ℚ) = d.toRat * (d.den * d'.den) := by
    rw [Nat.cast_mul, ← toRat_mul_den]
    ring
  have hnum' : ((d'.num * d.den : ℕ) : ℚ) = d'.toRat * (d.den * d'.den) := by
    rw [Nat.cast_mul, ← toRat_mul_den]
    ring
  rw [← Nat.cast_le (α := ℚ), hnum, hnum', mul_le_mul_iff_of_pos_right (mul_pos hden hden')]

/-- A decimal without places behind those of the unit is a whole number of quarters of it. -/
theorem toRat_scaled {unit g : ℕ} (h : d.exponent + unit = g) :
    d.toRat * (4 * 10 ^ unit) = ((d.coefficient * (4 * 10 ^ g) : ℕ) : ℚ) := by
  have hpow : (10 : ℚ) ^ d.exponent * 10 ^ unit = 10 ^ g := by
    rw [← zpow_natCast, ← zpow_natCast, ← zpow_add₀ (by norm_num), h]
  push_cast
  rw [toRat, ← hpow]
  ring

/-- A decimal in quarters of `10 ^ -unit`, times its denominator. -/
theorem scaled_mul_den (d : Decimal) (unit : ℕ) :
    d.toRat * (4 * 10 ^ unit) * d.den = ((4 * (d.num * 2 ^ unit) * 5 ^ unit : ℕ) : ℚ) := by
  have hpow : (10 : ℚ) ^ unit = 2 ^ unit * 5 ^ unit := by
    rw [← mul_pow]
    norm_num
  push_cast
  rw [← toRat_mul_den, hpow]
  ring

theorem le_scaled_iff (d : Decimal) (n unit : ℕ) :
    ((n * 5 ^ unit : ℕ) : ℚ) ≤ d.toRat * (4 * 10 ^ unit) ↔
      n * d.den ≤ 4 * (d.num * 2 ^ unit) := by
  have hden : (0 : ℚ) < d.den := by exact_mod_cast d.den_pos
  rw [← mul_le_mul_iff_of_pos_right hden, scaled_mul_den, ← Nat.cast_mul, Nat.cast_le,
    Nat.mul_right_comm, Nat.mul_le_mul_right_iff (Nat.pow_pos (by decide))]

theorem scaled_le_iff (d : Decimal) (n unit : ℕ) :
    d.toRat * (4 * 10 ^ unit) ≤ ((n * 5 ^ unit : ℕ) : ℚ) ↔
      4 * (d.num * 2 ^ unit) ≤ n * d.den := by
  have hden : (0 : ℚ) < d.den := by exact_mod_cast d.den_pos
  rw [← mul_le_mul_iff_of_pos_right hden, scaled_mul_den, ← Nat.cast_mul, Nat.cast_le,
    Nat.mul_right_comm n, Nat.mul_le_mul_right_iff (Nat.pow_pos (by decide))]

end Decimal

namespace BinaryFormat

variable {f : BinaryFormat} {bits : ℕ}

/-! ### Intervals -/

theorem interval_low (bits : ℕ) :
    (f.interval bits).low = (4 * f.magnitude bits - f.halfGapBelow bits) * 5 ^ f.unit := rfl

theorem interval_value (bits : ℕ) :
    (f.interval bits).value = 4 * f.magnitude bits * 5 ^ f.unit := rfl

theorem interval_high (bits : ℕ) :
    (f.interval bits).high = (4 * f.magnitude bits + 2 * f.step bits) * 5 ^ f.unit := rfl

theorem interval_closed (bits : ℕ) : (f.interval bits).closed = decide (bits % 2 = 0) := rfl

theorem interval_value_div (bits : ℕ) :
    (f.interval bits).value / 4 * 4 = (f.interval bits).value := by
  rw [interval_value, Nat.mul_assoc]
  omega

/-- The interval of a pattern holds its magnitude. -/
theorem interval_contains_value (hbits : 0 < bits) :
    (f.interval bits).Contains (f.interval bits).value := by
  have hscale : 0 < 5 ^ f.unit := Nat.pow_pos (by decide)
  have hstep : 0 < f.step bits := Nat.two_pow_pos _
  have hmagnitude := step_le_magnitude (f := f) hbits
  have hgap := step_le_halfGapBelow (f := f) bits
  have hbelow : 4 * f.magnitude bits - f.halfGapBelow bits < 4 * f.magnitude bits := by omega
  have habove : 4 * f.magnitude bits < 4 * f.magnitude bits + 2 * f.step bits := by omega
  have hlow : (f.interval bits).low < (f.interval bits).value :=
    Nat.mul_lt_mul_of_pos_right hbelow hscale
  have hhigh : (f.interval bits).value < (f.interval bits).high :=
    Nat.mul_lt_mul_of_pos_right habove hscale
  rw [← Decimal.Interval.holds_eq_true_iff, Decimal.Interval.holds]
  split_ifs <;> simp [hlow, hhigh, Nat.le_of_lt]

/-- The decimals in the interval of a pattern are those that round to it. -/
theorem contains_iff_roundsTo {d : Decimal} :
    (f.interval bits).Contains (d.toRat * (4 * 10 ^ f.unit)) ↔ f.RoundsTo bits d.num d.den := by
  rw [Decimal.Interval.Contains, interval_low, interval_high, interval_closed, d.le_scaled_iff,
    d.scaled_le_iff, ← not_le, d.scaled_le_iff, ← not_le, d.le_scaled_iff, Nat.sub_mul]
  by_cases heven : bits % 2 = 0
  · rw [if_pos (decide_eq_true heven)]
    constructor
    · rintro ⟨hlow, hhigh⟩
      exact ⟨by omega, hhigh, by omega⟩
    · rintro ⟨hlow, hhigh, -⟩
      exact ⟨by omega, hhigh⟩
  · have hgap := halfGapBelow_le (f := f) bits
    have hmagnitude : f.step bits ≤ f.magnitude bits := step_le_magnitude (by omega)
    have hle : f.halfGapBelow bits * d.den ≤ 4 * f.magnitude bits * d.den :=
      Nat.mul_le_mul_right _ (by omega)
    rw [if_neg (by simpa using heven)]
    constructor
    · rintro ⟨hlow, hhigh⟩
      exact ⟨by omega, by omega, fun _ => ⟨by omega, by omega⟩⟩
    · rintro ⟨-, -, hodd⟩
      obtain ⟨hlow, hhigh⟩ := hodd (by omega)
      exact ⟨by omega, by omega⟩

end BinaryFormat

end RouteTemplate
