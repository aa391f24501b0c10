import Mathlib.Algebra.Order.Field.Power
import Mathlib.Tactic.FieldSimp
import RouteTemplate.Proofs.FloatText
import RouteTemplate.Proofs.Neighbours

/-!
# RouteTemplate.Proofs.ShortestDigits — no fewer digits read back

A decimal with few digits does not lie strictly between the two neighbours of a value on a grid that
leaves as many (`Decimal.outside_of_length_le`).  So a grid without a hit has no decimal of so many
digits in the interval, a hit is the nearest of them, and seventeen digits are always enough
(`BinaryFormat.onGrid?_seventeen`).  Hence the decimal of a pattern reads back, has the fewest
digits of all that do, and is the nearest of those with as few
(`BinaryFormat.isShortest_shortest`).
-/

namespace RouteTemplate

namespace Decimal

/-! ### Grids -/

namespace Interval

variable {i : Interval} {grid c : ℕ} {x y z : ℚ}

/-- A number that does not lie between the two neighbours of the value on a grid. -/
def Outside (i : Interval) (grid : ℕ) (x : ℚ) : Prop :=
  x ≤ (i.value / grid * grid : ℕ) ∨ ((i.value / grid + 1) * grid : ℕ) ≤ x

/-- What is taken on a grid: nothing, if neither neighbour of the value lies in the interval, and
else the neighbour that does, the nearer one if both do. -/
inductive Taken (i : Interval) (grid : ℕ) : Option ℕ → Prop
  | nothing (hbelow : ¬ i.Contains (i.value / grid * grid : ℕ))
    (habove : ¬ i.Contains ((i.value / grid + 1) * grid : ℕ)) : Taken i grid none
  | below (hin : i.Contains (i.value / grid * grid : ℕ))
    (hnear : i.Contains ((i.value / grid + 1) * grid : ℕ) →
      2 * (i.value - i.value / grid * grid) < grid) : Taken i grid (some (i.value / grid))
  | above (hin : i.Contains ((i.value / grid + 1) * grid : ℕ))
    (hnear : i.Contains (i.value / grid * grid : ℕ) →
      grid ≤ 2 * (i.value - i.value / grid * grid)) : Taken i grid (some (i.value / grid + 1))

theorem taken_onGrid? (i : Interval) (grid : ℕ) : i.Taken grid (i.onGrid? grid) := by
  unfold onGrid?
  dsimp only
  split
  · rename_i hbelow habove
    rw [holds_eq_true_iff] at hbelow habove
    split_ifs with hnear
    · exact .below hbelow fun _ => hnear
    · exact .above habove fun _ => Nat.le_of_not_lt hnear
  · rename_i hbelow habove
    rw [holds_eq_true_iff] at hbelow
    rw [← Bool.not_eq_true, holds_eq_true_iff] at habove
    exact .below hbelow fun h => absurd h habove
  · rename_i hbelow habove
    rw [← Bool.not_eq_true, holds_eq_true_iff] at hbelow
    rw [holds_eq_true_iff] at habove
    exact .above habove fun h => absurd h hbelow
  · rename_i hbelow habove
    rw [← Bool.not_eq_true, holds_eq_true_iff] at hbelow habove
    exact .nothing hbelow habove

theorem below_le (hgrid : 0 < grid) : i.value / grid * grid ≤ i.value ∧
    i.value ≤ (i.value / grid + 1) * grid := by
  have hdiv : i.value / grid * grid + i.value % grid = i.value := Nat.div_add_mod' _ _
  have hmod := Nat.mod_lt i.value hgrid
  rw [Nat.succ_mul]
  omega

/-- A grid without a hit has none of what lies outside of the neighbours on it. -/
theorem not_contains_of_onGrid?_eq_none (hgrid : 0 < grid) (hvalue : i.Contains i.value)
    (h : i.onGrid? grid = none) (hx : i.Outside grid x) : ¬ i.Contains x := by
  have htaken := i.taken_onGrid? grid
  rw [h] at htaken
  obtain ⟨hbelow, habove⟩ := htaken
  obtain ⟨hle, hge⟩ := below_le (i := i) hgrid
  intro hcontains
  rcases hx with hx | hx
  · exact hbelow (hcontains.convex hvalue hx (by exact_mod_cast hle))
  · exact habove (hvalue.convex hcontains (by exact_mod_cast hge) hx)

/-- An interval without a hit on a grid is not wider than the grid. -/
theorem high_le_of_onGrid?_eq_none (hgrid : 0 < grid) (hvalue : i.Contains i.value)
    (h : i.onGrid? grid = none) : i.high ≤ i.low + grid := by
  have hbelow := not_contains_of_onGrid?_eq_none hgrid hvalue h (.inl le_rfl)
  have habove := not_contains_of_onGrid?_eq_none hgrid hvalue h (.inr le_rfl)
  obtain ⟨hle, hge⟩ := below_le (i := i) hgrid
  have hsucc : (i.value / grid + 1) * grid = i.value / grid * grid + grid := Nat.succ_mul _ _
  rw [Contains] at hvalue hbelow habove
  split_ifs at hvalue hbelow habove
  · norm_cast at hvalue hbelow habove
    omega
  · norm_cast at hvalue hbelow habove
    omega

/-- What is hit on a grid is in the interval, and nothing in it that lies outside of the neighbours
on the grid is nearer to the value. -/
theorem of_onGrid?_eq_some (hgrid : 0 < grid) (hvalue : i.Contains i.value)
    (h : i.onGrid? grid = some c) :
    (c = i.value / grid ∨ c = i.value / grid + 1) ∧ i.Contains (c * grid : ℕ) ∧
      ∀ x, i.Outside grid x → i.Contains x → |((c * grid : ℕ) : ℚ) - i.value| ≤ |x - i.value| := by
  obtain ⟨hle, hge⟩ := below_le (i := i) hgrid
  have hsucc : (i.value / grid + 1) * grid = i.value / grid * grid + grid := Nat.succ_mul _ _
  have hleRat : ((i.value / grid * grid : ℕ) : ℚ) ≤ i.value := by exact_mod_cast hle
  have hgeRat : (i.value : ℚ) ≤ ((i.value / grid + 1) * grid : ℕ) := by exact_mod_cast hge
  have htaken := i.taken_onGrid? grid
  rw [h] at htaken
  cases htaken with
  | below hin hnear =>
    refine ⟨.inl rfl, hin, fun x hx hcontains => ?_⟩
    rw [abs_of_nonpos (by linarith)]
    rcases hx with hx | hx
    · linarith [neg_le_abs (x - i.value)]
    · have hnearer := hnear (hvalue.convex hcontains hgeRat hx)
      have hcloser : (i.value : ℚ) + i.value ≤
          (i.value / grid * grid : ℕ) + ((i.value / grid + 1) * grid : ℕ) := by
        exact_mod_cast (by omega : i.value + i.value ≤
          i.value / grid * grid + (i.value / grid + 1) * grid)
      linarith [le_abs_self (x - i.value)]
  | above hin hnear =>
    refine ⟨.inr rfl, hin, fun x hx hcontains => ?_⟩
    rw [abs_of_nonneg (by linarith)]
    rcases hx with hx | hx
    · have hnearer := hnear (hcontains.convex hvalue hx hleRat)
      have hcloser : ((i.value / grid * grid : ℕ) : ℚ) + ((i.value / grid + 1) * grid : ℕ) ≤
          i.value + i.value := by
        exact_mod_cast (by omega : i.value / grid * grid + (i.value / grid + 1) * grid ≤
          i.value + i.value)
      linarith [neg_le_abs (x - i.value)]
    · linarith [le_abs_self (x - i.value)]

/-- The value has its leading digits on the grid that leaves them. -/
theorem pow_le_quotient {length n : ℕ} (hvalue : 4 * 10 ^ (length - 1) ≤ i.value) (hn : 0 < n)
    (hle : n ≤ length) : 10 ^ (n - 1) ≤ i.value / (4 * 10 ^ (length - n)) := by
  rw [Nat.le_div_iff_mul_le (by positivity)]
  calc 10 ^ (n - 1) * (4 * 10 ^ (length - n)) = 4 * 10 ^ (n - 1 + (length - n)) := by
        rw [pow_add]
        ring
    _ = 4 * 10 ^ (length - 1) := by
      congr 2
      omega
    _ ≤ i.value := hvalue

theorem quotient_lt_pow {length n : ℕ} (hvalue : i.value < 4 * 10 ^ length) (hle : n ≤ length) :
    i.value / (4 * 10 ^ (length - n)) < 10 ^ n := by
  rw [Nat.div_lt_iff_lt_mul (by positivity)]
  calc i.value < 4 * 10 ^ (n + (length - n)) := by rwa [Nat.add_sub_cancel' hle]
    _ = 10 ^ n * (4 * 10 ^ (length - n)) := by
      rw [pow_add]
      ring

/-- The search takes the first grid with a hit. -/
theorem coarsest_eq {one length fuel count n : ℕ} (hle : count ≤ n) (hlt : n < count + fuel)
    (h : i.onGrid? (one * 10 ^ (length - n)) = some c)
    (hfirst : ∀ m, count ≤ m → m < n → i.onGrid? (one * 10 ^ (length - m)) = none) :
    i.coarsest one length fuel count = (c, length - n) := by
  induction fuel generalizing count with
  | zero => omega
  | succ fuel ih =>
    rw [coarsest]
    rcases Nat.eq_or_lt_of_le hle with rfl | hlt'
    · have hhit : i.onGrid? (one * Nat.pow 10 (length - count)) = some c := h
      rw [hhit]
    · have hmiss : i.onGrid? (one * Nat.pow 10 (length - count)) = none :=
        hfirst count le_rfl hlt'
      rw [hmiss]
      exact ih hlt' (by omega) fun m hm hmn => hfirst m (Nat.le_of_lt hm) hmn

end Interval

/-! ### Values -/

variable {d d' : Decimal}

/-- A decimal is less than the power of ten with one more digit than stand in front of its point. -/
theorem toRat_lt_pow (d : Decimal) : d.toRat < 10 ^ d.point := by
  have hcoefficient : (d.coefficient : ℚ) < 10 ^ (d.digits.length : ℤ) := by
    rw [zpow_natCast]
    exact_mod_cast lt_pow_digitCount d.coefficient
  have hpoint : (10 : ℚ) ^ d.point = 10 ^ (d.digits.length : ℤ) * 10 ^ d.exponent :=
    zpow_add₀ (by norm_num) _ _
  rw [toRat, hpoint]
  exact mul_lt_mul_of_pos_right hcoefficient (by positivity)

/-- A decimal that is not zero is no less than the power of ten that its first digit counts. -/
theorem pow_le_toRat (hc : d.coefficient ≠ 0) : (10 : ℚ) ^ (d.point - 1) ≤ d.toRat := by
  have hpos : 0 < d.digits.length := List.length_pos_iff.mpr Nat.toDigits_ne_nil
  have hcoefficient : (10 : ℚ) ^ ((d.digits.length : ℤ) - 1) ≤ d.coefficient := by
    have hcast : ((d.digits.length : ℤ) - 1) = ((d.digits.length - 1 : ℕ) : ℤ) := by omega
    rw [hcast, zpow_natCast]
    exact_mod_cast pow_digitCount_le hc
  have hpoint : (10 : ℚ) ^ (d.point - 1) = 10 ^ ((d.digits.length : ℤ) - 1) * 10 ^ d.exponent := by
    rw [← zpow_add₀ (by norm_num)]
    congr 1
    rw [point]
    ring
  rw [toRat, hpoint]
  exact mul_le_mul_of_nonneg_right hcoefficient (by positivity)

/-- A decimal with few digits in front of its point, in quarters of `10 ^ -unit`. -/
theorem scaled_le_pow {unit m : ℕ} (h : d.point + unit ≤ m) :
    d.toRat * (4 * 10 ^ unit) ≤ ((4 * 10 ^ m : ℕ) : ℚ) := by
  calc d.toRat * (4 * 10 ^ unit) ≤ 10 ^ d.point * (4 * 10 ^ unit) :=
        mul_le_mul_of_nonneg_right d.toRat_lt_pow.le (by positivity)
    _ = 4 * (10 ^ (d.point + unit)) := by
      rw [zpow_add₀ (by norm_num), zpow_natCast]
      ring
    _ ≤ 4 * 10 ^ (m : ℤ) := by
      gcongr
      norm_num
    _ = ((4 * 10 ^ m : ℕ) : ℚ) := by
      rw [zpow_natCast]
      push_cast
      ring

/-- A decimal with few digits does not lie between the neighbours of the value on a grid that leaves
as many digits: either it is on the grid, or it is less than anything with so many digits there. -/
theorem outside_of_length_le {i : Interval} {unit length n : ℕ}
    (hvalue : 4 * 10 ^ (length - 1) ≤ i.value) (hn : 0 < n) (hle : n ≤ length)
    (hd : d.digits.length ≤ n) :
    i.Outside (4 * 10 ^ (length - n)) (d.toRat * (4 * 10 ^ unit)) := by
  have hquot := Interval.pow_le_quotient hvalue hn hle
  obtain ⟨k, rfl⟩ : ∃ k, length = n + k := ⟨length - n, by omega⟩
  rw [Nat.add_sub_cancel_left] at hquot ⊢
  rcases le_or_gt (k : ℤ) (d.exponent + unit) with hcoarse | hfine
  · obtain ⟨j, hj⟩ : ∃ j : ℕ, d.exponent + unit = (j + k : ℕ) :=
      ⟨(d.exponent + unit - k).toNat, by omega⟩
    have hgrid : d.coefficient * (4 * 10 ^ (j + k)) = d.coefficient * 10 ^ j * (4 * 10 ^ k) := by
      rw [pow_add]
      ring
    rw [toRat_scaled hj, hgrid]
    rcases Nat.lt_or_ge (i.value / (4 * 10 ^ k)) (d.coefficient * 10 ^ j) with hlt | hge
    · exact .inr (Nat.cast_le.mpr (Nat.mul_le_mul_right _ hlt))
    · exact .inl (Nat.cast_le.mpr (Nat.mul_le_mul_right _ hge))
  · have hpoint : d.point + unit ≤ ((n - 1 + k : ℕ) : ℤ) := by
      rw [point]
      omega
    have hbelow : 4 * 10 ^ (n - 1 + k) ≤ i.value / (4 * 10 ^ k) * (4 * 10 ^ k) := by
      calc 4 * 10 ^ (n - 1 + k) = 10 ^ (n - 1) * (4 * 10 ^ k) := by
            rw [pow_add]
            ring
        _ ≤ _ := Nat.mul_le_mul_right _ hquot
    exact .inl ((scaled_le_pow hpoint).trans (Nat.cast_le.mpr hbelow))

theorem toRat_trimZeros (fuel : ℕ) (d : Decimal) : (d.trimZeros fuel).toRat = d.toRat := by
  obtain ⟨k, hexp, hcoeff⟩ := trimZeros_spec fuel d
  rw [toRat, toRat, hexp, hcoeff, zpow_add₀ (by norm_num), zpow_natCast]
  push_cast
  ring

/-- A coefficient that has lost its zeros has none at its end. -/
theorem trimZeros_mod_ten {fuel : ℕ} {d : Decimal} (hc : d.coefficient ≠ 0)
    (hlt : d.coefficient < 10 ^ (fuel + 1)) : (d.trimZeros fuel).coefficient % 10 ≠ 0 := by
  induction fuel generalizing d with
  | zero =>
    rw [trimZeros]
    omega
  | succ fuel ih =>
    rw [trimZeros]
    split_ifs with h
    · rw [pow_succ] at hlt
      refine ih ?_ ?_
      · dsimp only
        omega
      · dsimp only
        omega
    · exact h

end Decimal

namespace BinaryFormat

variable {f : BinaryFormat} {bits : ℕ}

/-! ### Hits -/

/-- The number of digits of a magnitude in units of `10 ^ -unit`. -/
def places (f : BinaryFormat) (bits : ℕ) : ℕ := Decimal.digitCount ((f.interval bits).value / 4)

theorem pow_places_le (hbits : 0 < bits) :
    4 * 10 ^ (f.places bits - 1) ≤ (f.interval bits).value := by
  have hmagnitude : 0 < f.magnitude bits :=
    Nat.lt_of_lt_of_le (Nat.two_pow_pos _) (step_le_magnitude hbits)
  have hquot : (f.interval bits).value / 4 = f.magnitude bits * 5 ^ f.unit := by
    rw [interval_value, Nat.mul_assoc, Nat.mul_div_cancel_left _ (by decide)]
  have hne : (f.interval bits).value / 4 ≠ 0 := by
    rw [hquot]
    exact Nat.ne_of_gt (Nat.mul_pos hmagnitude (Nat.pow_pos (by decide)))
  have hpow := Nat.mul_le_mul_left 4 (Decimal.pow_digitCount_le hne)
  exact hpow.trans (Nat.mul_div_le _ _)

/-- The half gaps around a pattern are together more than `10 ^ -16` of its magnitude. -/
theorem magnitude_lt_halfGaps (hf : f.fraction ≤ 52) (bits : ℕ) :
    4 * f.magnitude bits < (f.halfGapBelow bits + 2 * f.step bits) * 10 ^ 16 := by
  have hstep : 0 < f.step bits := Nat.two_pow_pos _
  have hsig := f.significand_lt bits
  have hpow : 2 ^ f.fraction ≤ 2 ^ 52 := Nat.pow_le_pow_right (by decide) hf
  have hmul : 4 * f.magnitude bits = 4 * f.significand bits * f.step bits := by
    rw [magnitude_eq, step_eq, Nat.mul_assoc]
  rw [hmul]
  rcases halfGapBelow_cases (f := f) bits with heq | ⟨heq, hpower⟩
  · calc 4 * f.significand bits * f.step bits < 4 * 10 ^ 16 * f.step bits :=
          Nat.mul_lt_mul_of_pos_right (by omega) hstep
      _ = (f.halfGapBelow bits + 2 * f.step bits) * 10 ^ 16 := by
        rw [heq]
        ring
  · calc 4 * f.significand bits * f.step bits < 3 * 10 ^ 16 * f.step bits :=
          Nat.mul_lt_mul_of_pos_right (by omega) hstep
      _ = (f.halfGapBelow bits + 2 * f.step bits) * 10 ^ 16 := by
        rw [heq]
        ring

/-- Seventeen digits suffice: the interval is wider than the grid that leaves so many. -/
theorem onGrid?_seventeen (hf : f.fraction ≤ 52) (hbits : 0 < bits) (hplaces : 17 ≤ f.places bits) :
    (f.interval bits).onGrid? (4 * 10 ^ (f.places bits - 17)) ≠ none := by
  intro hnone
  have hmagnitude := step_le_magnitude (f := f) hbits
  have hgap := halfGapBelow_le (f := f) bits
  have hwidth := Decimal.Interval.high_le_of_onGrid?_eq_none (by positivity)
    (interval_contains_value hbits) hnone
  have hgrid : 4 * 10 ^ (f.places bits - 17) * 10 ^ 16 ≤ 4 * f.magnitude bits * 5 ^ f.unit := by
    calc 4 * 10 ^ (f.places bits - 17) * 10 ^ 16 = 4 * 10 ^ (f.places bits - 1) := by
          rw [Nat.mul_assoc, ← pow_add]
          congr 2
          omega
      _ ≤ _ := pow_places_le hbits
  have hends : (4 * f.magnitude bits + 2 * f.step bits) * 5 ^ f.unit =
      (4 * f.magnitude bits - f.halfGapBelow bits) * 5 ^ f.unit +
        (f.halfGapBelow bits + 2 * f.step bits) * 5 ^ f.unit := by
    rw [← Nat.add_mul]
    congr 1
    omega
  rw [interval_high, interval_low, hends] at hwidth
  have hnarrow : (f.halfGapBelow bits + 2 * f.step bits) * 10 ^ 16 ≤ 4 * f.magnitude bits := by
    refine Nat.le_of_mul_le_mul_right (c := 5 ^ f.unit) ?_ (Nat.pow_pos (by decide))
    rw [Nat.mul_right_comm]
    exact (Nat.mul_le_mul_right _ (Nat.le_of_add_le_add_left hwidth)).trans hgrid
  exact absurd (magnitude_lt_halfGaps hf bits) (Nat.not_lt.mpr hnarrow)

/-- The first grid with a hit leaves `n` digits, and `c` is hit on it. -/
structure FirstHit (f : BinaryFormat) (bits n c : ℕ) : Prop where
  pos : 0 < n
  le_places : n ≤ f.places bits
  hit : (f.interval bits).onGrid? (4 * 10 ^ (f.places bits - n)) = some c
  first : ∀ m, 0 < m → m < n →
    (f.interval bits).onGrid? (4 * 10 ^ (f.places bits - m)) = none

/-- There is a first hit, and it leaves at most seventeen digits. -/
theorem exists_firstHit (hf : f.fraction ≤ 52) (hbits : 0 < bits) :
    ∃ n c, n ≤ 17 ∧ f.FirstHit bits n c := by
  have hlength : 0 < f.places bits := List.length_pos_iff.mpr Nat.toDigits_ne_nil
  have hex : ∃ n, 0 < n ∧ n ≤ 17 ∧ n ≤ f.places bits ∧
      (f.interval bits).onGrid? (4 * 10 ^ (f.places bits - n)) ≠ none := by
    rcases Nat.lt_or_ge (f.places bits) 17 with hshort | hlong
    · refine ⟨f.places bits, hlength, hshort.le, le_rfl, fun hnone => ?_⟩
      have hin := interval_contains_value (f := f) hbits
      rw [Nat.sub_self, pow_zero, Nat.mul_one] at hnone
      refine Decimal.Interval.not_contains_of_onGrid?_eq_none (by decide) hin hnone (.inl ?_) hin
      rw [interval_value_div]
    · exact ⟨17, by decide, le_rfl, hlong, onGrid?_seventeen hf hbits hlong⟩
  classical
  obtain ⟨hpos, hle, hlen, hhit⟩ := Nat.find_spec hex
  obtain ⟨c, hc⟩ := Option.ne_none_iff_exists'.mp hhit
  refine ⟨Nat.find hex, c, hle, hpos, hlen, hc, fun m hm hlt => ?_⟩
  by_contra hsome
  exact Nat.find_min hex hlt ⟨hm, by omega, by omega, hsome⟩

theorem lt_pow_places (f : BinaryFormat) (bits : ℕ) :
    (f.interval bits).value < 4 * 10 ^ f.places bits := by
  have hlt : (f.interval bits).value / 4 < 10 ^ f.places bits := Decimal.lt_pow_digitCount _
  omega

/-! ### The shortest decimal -/

/-- The number of a pattern without sign. -/
def toRat (f : BinaryFormat) (bits : ℕ) : ℚ := f.magnitude bits / 2 ^ f.unit

/-- A shortest decimal of a pattern: it reads back as the pattern, has the fewest digits of all that
do, and of those with as few is as near to the number of the pattern as any. -/
structure IsShortest (f : BinaryFormat) (bits : ℕ) (d : Decimal) : Prop where
  readsBack : d.nearest f = bits
  fewest : ∀ d' : Decimal, d'.nearest f = bits → d.digits.length ≤ d'.digits.length
  closest : ∀ d' : Decimal, d'.nearest f = bits → d'.digits.length = d.digits.length →
    |d.toRat - f.toRat bits| ≤ |d'.toRat - f.toRat bits|

theorem interval_value_eq (f : BinaryFormat) (bits : ℕ) :
    ((f.interval bits).value : ℚ) = f.toRat bits * (4 * 10 ^ f.unit) := by
  have hpow : (10 : ℚ) ^ f.unit = 2 ^ f.unit * 5 ^ f.unit := by
    rw [← mul_pow]
    norm_num
  rw [interval_value, toRat, hpow]
  push_cast
  field_simp

theorem nearest_eq_iff_contains (hf : f.Proper) (hpos : 0 < bits) (hlt : bits < f.infinity)
    {d : Decimal} :
    d.nearest f = bits ↔ (f.interval bits).Contains (d.toRat * (4 * 10 ^ f.unit)) := by
  rw [Decimal.nearest_eq_iff hf hpos hlt, contains_iff_roundsTo]

namespace FirstHit

variable {n c : ℕ}

/-- The decimal of a pattern is its first hit without the zeros at the end. -/
theorem shortest_eq (h : f.FirstHit bits n c) (hle : n ≤ 17) :
    f.shortest bits =
      (Decimal.mk c ((f.places bits - n : ℕ) - f.unit)).trimZeros (f.places bits) := by
  have hsearch : (f.interval bits).coarsest 4 (f.places bits) 17 1 = (c, f.places bits - n) :=
    Decimal.Interval.coarsest_eq h.pos (by omega) h.hit h.first
  have heq : f.shortest bits =
      (Decimal.mk ((f.interval bits).coarsest 4 (f.places bits) 17 1).1
        (((f.interval bits).coarsest 4 (f.places bits) 17 1).2 - f.unit)).trimZeros
          (f.places bits) := rfl
  rw [heq, hsearch]

theorem toRat_shortest (h : f.FirstHit bits n c) (hle : n ≤ 17) :
    (f.shortest bits).toRat * (4 * 10 ^ f.unit) = (c * (4 * 10 ^ (f.places bits - n)) : ℕ) := by
  rw [h.shortest_eq hle, Decimal.toRat_trimZeros]
  exact Decimal.toRat_scaled (Int.sub_add_cancel _ _)

/-- The hit has no more digits than the grid leaves, or is the power of ten after all of them. -/
theorem coefficient_bounds (h : f.FirstHit bits n c) (hbits : 0 < bits) : c ≠ 0 ∧ c ≤ 10 ^ n := by
  have hlow := Decimal.Interval.pow_le_quotient (pow_places_le hbits) h.pos h.le_places
  have hhigh := Decimal.Interval.quotient_lt_pow (f.lt_pow_places bits) h.le_places
  have hpow : 0 < 10 ^ (n - 1) := Nat.pow_pos (by decide)
  obtain ⟨hneighbour, -⟩ := Decimal.Interval.of_onGrid?_eq_some (by positivity)
    (interval_contains_value hbits) h.hit
  omega

/-- The decimal has no zero at its end, and no more digits than the grid leaves. -/
theorem digits_shortest (h : f.FirstHit bits n c) (hle : n ≤ 17) (hbits : 0 < bits) :
    (f.shortest bits).coefficient % 10 ≠ 0 ∧ (f.shortest bits).digits.length ≤ n := by
  obtain ⟨hne, hmost⟩ := h.coefficient_bounds hbits
  obtain ⟨k, -, hcoeff⟩ := Decimal.trimZeros_spec (f.places bits)
    (Decimal.mk c ((f.places bits - n : ℕ) - f.unit))
  rw [← h.shortest_eq hle] at hcoeff
  dsimp only at hcoeff
  have htrim : (f.shortest bits).coefficient % 10 ≠ 0 := by
    rw [h.shortest_eq hle]
    refine Decimal.trimZeros_mod_ten hne (Nat.lt_of_le_of_lt hmost ?_)
    exact Nat.pow_lt_pow_right (by decide) (Nat.lt_succ_of_le h.le_places)
  refine ⟨htrim, (Nat.length_toDigits_le_iff (by decide) h.pos).mpr ?_⟩
  have hpow : 0 < 10 ^ k := Nat.pow_pos (by decide)
  have hcoeffLe : (f.shortest bits).coefficient ≤ 10 ^ n := by
    refine le_trans ?_ hmost
    rw [hcoeff]
    exact Nat.le_mul_of_pos_right _ hpow
  refine Nat.lt_of_le_of_ne hcoeffLe fun heq => htrim ?_
  obtain ⟨m, rfl⟩ : ∃ m, n = m + 1 := ⟨n - 1, by have := h.pos; omega⟩
  rw [heq, pow_succ, Nat.mul_mod_left]

end FirstHit

/-- **The digits are the shortest ones.** -/
theorem isShortest_shortest (hf : f.Proper) (hfraction : f.fraction ≤ 52) (hpos : 0 < bits)
    (hlt : bits < f.infinity) : f.IsShortest bits (f.shortest bits) := by
  obtain ⟨n, c, hle, h⟩ := exists_firstHit hfraction hpos
  have hvalue := interval_contains_value (f := f) hpos
  have hlow := pow_places_le (f := f) hpos
  have hplace := h.toRat_shortest hle
  obtain ⟨-, hdigits⟩ := h.digits_shortest hle hpos
  obtain ⟨-, hin, hnearest⟩ := Decimal.Interval.of_onGrid?_eq_some (by positivity) hvalue h.hit
  rw [← hplace] at hin hnearest
  refine ⟨(nearest_eq_iff_contains hf hpos hlt).mpr hin, fun d hd => ?_, fun d hd hlength => ?_⟩
  · -- a decimal with fewer digits would have been hit on an earlier grid
    rw [nearest_eq_iff_contains hf hpos hlt] at hd
    by_contra hfewer
    have hpos' : 0 < d.digits.length := List.length_pos_iff.mpr Nat.toDigits_ne_nil
    have hbound := h.le_places
    have hnone := h.first d.digits.length hpos' (by omega)
    refine Decimal.Interval.not_contains_of_onGrid?_eq_none (by positivity) hvalue hnone ?_ hd
    exact Decimal.outside_of_length_le hlow hpos' (by omega) le_rfl
  · rw [nearest_eq_iff_contains hf hpos hlt] at hd
    have houtside : (f.interval bits).Outside (4 * 10 ^ (f.places bits - n))
        (d.toRat * (4 * 10 ^ f.unit)) :=
      Decimal.outside_of_length_le hlow h.pos h.le_places (hlength.trans_le hdigits)
    have hscale : (0 : ℚ) < 4 * 10 ^ f.unit := by positivity
    have hdistance : ∀ x : ℚ, |x * (4 * 10 ^ f.unit) - (f.interval bits).value| =
        |x - f.toRat bits| * (4 * 10 ^ f.unit) := by
      intro x
      rw [interval_value_eq, ← sub_mul, abs_mul, abs_of_pos hscale]
    have hcloser := hnearest _ houtside hd
    rw [hdistance, hdistance] at hcloser
    exact le_of_mul_le_mul_right hcloser hscale

end BinaryFormat

end RouteTemplate
