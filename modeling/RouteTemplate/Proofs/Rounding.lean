import Mathlib.Tactic.Ring
import RouteTemplate.Decimal.Reader

/-!
# RouteTemplate.Proofs.Rounding — what rounds to a bit pattern

A finite magnitude is a significand times a power of two, in units of the format
(`BinaryFormat.magnitude_eq`).  A quotient rounds to a pattern when it lies between the middles of the
gaps around that magnitude, and on such a middle only if the pattern is even
(`BinaryFormat.RoundsTo`).  Rounding finds exactly that pattern (`BinaryFormat.nearest_eq`), also
for a decimal of any size (`Decimal.nearest_eq`).
-/

namespace RouteTemplate

namespace BinaryFormat

/-! ### Quotients -/

/-- A quotient within half a unit of a whole number rounds to it; half a unit away it does if the
number is even. -/
theorem divideNearest_eq {n d q : ℕ} (hd : 0 < d) (hlow : 2 * (q * d) ≤ 2 * n + d)
    (hhigh : 2 * n ≤ 2 * (q * d) + d)
    (hodd : q % 2 = 1 → 2 * (q * d) < 2 * n + d ∧ 2 * n < 2 * (q * d) + d) :
    divideNearest n d = q := by
  have hn : n / d * d + n % d = n := Nat.div_add_mod' n d
  have hr : n % d < d := Nat.mod_lt n hd
  unfold divideNearest
  dsimp only
  generalize n / d = k at hn ⊢
  generalize n % d = r at hn hr ⊢
  subst hn
  have hle : k ≤ q := by
    by_contra h
    have hmul : (q + 1) * d ≤ k * d := Nat.mul_le_mul_right d (by omega)
    have hsucc : (q + 1) * d = q * d + d := Nat.succ_mul q d
    omega
  have hge : q ≤ k + 1 := by
    by_contra h
    have hmul : (k + 2) * d ≤ q * d := Nat.mul_le_mul_right d (by omega)
    have hsucc : (k + 2) * d = k * d + 2 * d := Nat.add_mul k 2 d
    omega
  rcases Nat.lt_or_ge k q with h | h
  · obtain rfl : q = k + 1 := by omega
    have hsucc : (k + 1) * d = k * d + d := Nat.succ_mul k d
    rw [hsucc] at hlow hhigh hodd
    split_ifs <;> omega
  · obtain rfl : q = k := by omega
    split_ifs <;> omega

/-- How far a quotient is shifted to leave `p + 1` digits, or as many as there are. -/
theorem log2_div_sub {p k n d : ℕ} (hd : 0 < d) (hlow : k = 0 ∨ 2 ^ (p + k) * d ≤ n)
    (hhigh : n < 2 ^ (p + k + 1) * d) : Nat.log2 (n / d) - p = k := by
  have hlt : n / d < 2 ^ (p + k + 1) := (Nat.div_lt_iff_lt_mul hd).mpr hhigh
  by_cases h0 : n / d = 0
  · rcases hlow with rfl | h
    · rw [h0, Nat.log2_zero, Nat.zero_sub]
    · have hle : 2 ^ (p + k) ≤ n / d := (Nat.le_div_iff_mul_le hd).mpr h
      have hpos : 0 < 2 ^ (p + k) := Nat.two_pow_pos _
      omega
  · have hlog : Nat.log2 (n / d) < p + k + 1 := (Nat.log2_lt h0).mpr hlt
    rcases hlow with rfl | h
    · omega
    · have hle : p + k ≤ Nat.log2 (n / d) :=
        (Nat.le_log2 h0).mpr ((Nat.le_div_iff_mul_le hd).mpr h)
      omega

variable (f : BinaryFormat)

/-! ### Patterns -/

/-- The power of two that one unit of the significand of a pattern counts. -/
def power (bits : ℕ) : ℕ := bits / Nat.pow 2 f.fraction - 1

/-- The significand of a pattern without sign, with its leading bit if it has one. -/
def significand (bits : ℕ) : ℕ := bits - f.power bits * Nat.pow 2 f.fraction

theorem step_eq (bits : ℕ) : f.step bits = 2 ^ f.power bits := rfl

theorem power_mul_add_significand (bits : ℕ) :
    f.power bits * 2 ^ f.fraction + f.significand bits = bits := by
  have hle : f.power bits * 2 ^ f.fraction ≤ bits := by
    calc f.power bits * 2 ^ f.fraction ≤ bits / 2 ^ f.fraction * 2 ^ f.fraction :=
          Nat.mul_le_mul_right _ (Nat.sub_le _ 1)
      _ ≤ bits := Nat.div_mul_le_self _ _
  exact Nat.add_sub_cancel' hle

theorem significand_lt (bits : ℕ) : f.significand bits < 2 * 2 ^ f.fraction := by
  have hadd := f.power_mul_add_significand bits
  have hdiv : bits / 2 ^ f.fraction * 2 ^ f.fraction + bits % 2 ^ f.fraction = bits :=
    Nat.div_add_mod' bits _
  have hmod : bits % 2 ^ f.fraction < 2 ^ f.fraction := Nat.mod_lt _ (Nat.two_pow_pos _)
  have hle : bits / 2 ^ f.fraction ≤ f.power bits + 1 := Nat.le_add_of_sub_le le_rfl
  have hmul := Nat.mul_le_mul_right (2 ^ f.fraction) hle
  rw [Nat.succ_mul] at hmul
  omega

/-- A significand that counts more than the least has its leading bit. -/
theorem le_significand {bits : ℕ} (h : 0 < f.power bits) : 2 ^ f.fraction ≤ f.significand bits := by
  have hadd := f.power_mul_add_significand bits
  have hle : bits / 2 ^ f.fraction * 2 ^ f.fraction ≤ bits := Nat.div_mul_le_self _ _
  have hquot : bits / 2 ^ f.fraction = f.power bits + 1 := by
    have : f.power bits = bits / 2 ^ f.fraction - 1 := rfl
    omega
  rw [hquot, Nat.succ_mul] at hle
  omega

theorem significand_mod_two {f : BinaryFormat} (hf : 0 < f.fraction) (bits : ℕ) :
    f.significand bits % 2 = bits % 2 := by
  have hadd := f.power_mul_add_significand bits
  obtain ⟨p, hp⟩ : ∃ p, f.fraction = p + 1 := ⟨f.fraction - 1, by omega⟩
  have heven : f.power bits * 2 ^ f.fraction = 2 * (f.power bits * 2 ^ p) := by
    rw [hp]
    ring
  omega

theorem magnitude_eq (bits : ℕ) :
    f.magnitude bits = f.significand bits * 2 ^ f.power bits := by
  have hadd := f.power_mul_add_significand bits
  have hpower : f.power bits = bits / 2 ^ f.fraction - 1 := rfl
  have hdiv : bits / 2 ^ f.fraction * 2 ^ f.fraction + bits % 2 ^ f.fraction = bits :=
    Nat.div_add_mod' bits _
  rw [magnitude, step_eq]
  change (if bits / 2 ^ f.fraction = 0 then bits else (2 ^ f.fraction + bits % 2 ^ f.fraction) * _) = _
  by_cases h : bits / 2 ^ f.fraction = 0
  · have hzero : f.power bits = 0 := by rw [hpower, h]
    rw [hzero, Nat.zero_mul, Nat.zero_add] at hadd
    rw [if_pos h, hzero, pow_zero, Nat.mul_one, hadd]
  · have hquot : bits / 2 ^ f.fraction = f.power bits + 1 := by
      rw [hpower]
      exact (Nat.succ_pred_eq_of_ne_zero h).symm
    rw [hquot, Nat.succ_mul] at hdiv
    rw [if_neg h]
    congr 1
    omega

/-- A pattern of a power and a significand with its leading bit has them. -/
theorem power_significand_of_eq {k q : ℕ} (hq : 2 ^ f.fraction ≤ q) (hlt : q < 2 * 2 ^ f.fraction) :
    f.power (k * 2 ^ f.fraction + q) = k ∧ f.significand (k * 2 ^ f.fraction + q) = q := by
  have hpos : 0 < 2 ^ f.fraction := Nat.two_pow_pos _
  have hquot : (k * 2 ^ f.fraction + q) / 2 ^ f.fraction = k + 1 := by
    rw [Nat.mul_comm k, Nat.mul_add_div hpos]
    congr 1
    exact Nat.div_eq_of_lt_le (by omega) (by omega)
  have hpower : f.power (k * 2 ^ f.fraction + q) = k := by
    rw [power]
    exact congrArg (· - 1) hquot
  have hadd := f.power_mul_add_significand (k * 2 ^ f.fraction + q)
  rw [hpower] at hadd
  exact ⟨hpower, by omega⟩

/-! ### Rounding to a pattern -/

/-- Half the gap below a pattern without sign, in quarters of a unit.  Below a power of two the
patterns lie twice as close as above it, the least normal one excepted. -/
def halfGapBelow (bits : ℕ) : ℕ :=
  if bits % Nat.pow 2 f.fraction = 0 ∧ 1 < bits / Nat.pow 2 f.fraction then f.step bits
  else 2 * f.step bits

/-- A quotient rounds to a finite pattern without sign: it lies between the middles of the gaps
around the magnitude, and on neither of them if the pattern is odd. -/
structure RoundsTo (bits num den : ℕ) : Prop where
  low : 4 * f.magnitude bits * den ≤ 4 * (num * 2 ^ f.unit) + f.halfGapBelow bits * den
  high : 4 * (num * 2 ^ f.unit) ≤ (4 * f.magnitude bits + 2 * f.step bits) * den
  odd : bits % 2 = 1 →
    4 * f.magnitude bits * den < 4 * (num * 2 ^ f.unit) + f.halfGapBelow bits * den ∧
      4 * (num * 2 ^ f.unit) < (4 * f.magnitude bits + 2 * f.step bits) * den

variable {f}

theorem magnitude_zero : f.magnitude 0 = 0 := by
  rw [magnitude_eq, significand, Nat.zero_sub, Nat.zero_mul]

theorem halfGapBelow_le (bits : ℕ) : f.halfGapBelow bits ≤ 2 * f.step bits := by
  rw [halfGapBelow]
  split_ifs <;> omega

theorem step_le_halfGapBelow (bits : ℕ) : f.step bits ≤ f.halfGapBelow bits := by
  rw [halfGapBelow]
  split_ifs <;> omega

/-- The gap below a power of two is half the gap above it. -/
theorem halfGapBelow_of_significand_eq {bits : ℕ} (h : 0 < f.power bits)
    (hq : f.significand bits = 2 ^ f.fraction) : f.halfGapBelow bits = f.step bits := by
  have hadd := f.power_mul_add_significand bits
  have hpower : f.power bits = bits / 2 ^ f.fraction - 1 := rfl
  rw [hq] at hadd
  have hmod : bits % 2 ^ f.fraction = 0 := by
    rw [← hadd, ← Nat.succ_mul, Nat.mul_mod_left]
  exact if_pos ⟨hmod, by change 1 < bits / 2 ^ f.fraction; omega⟩

theorem nearest_of_shift {num den k q : ℕ}
    (hk : Nat.log2 (num * 2 ^ f.unit / den) - f.fraction = k)
    (hq : divideNearest (num * 2 ^ f.unit) (den * 2 ^ k) = q) :
    f.nearest num den = min f.infinity (k * 2 ^ f.fraction + q) := by
  subst hk
  have hnearest : f.nearest num den = min f.infinity
      ((Nat.log2 (num * 2 ^ f.unit / den) - f.fraction) * 2 ^ f.fraction
        + divideNearest (num * 2 ^ f.unit)
          (den * 2 ^ (Nat.log2 (num * 2 ^ f.unit / den) - f.fraction))) := rfl
  rw [hnearest, hq]

/-- A quotient that rounds to a pattern is found if it is not below the power of two that the
pattern's leading bit counts. -/
theorem nearest_eq_of_le (hf : 0 < f.fraction) {bits num den : ℕ} (hden : 0 < den)
    (h : f.RoundsTo bits num den)
    (hle : f.power bits = 0 ∨ 2 ^ (f.fraction + f.power bits) * den ≤ num * 2 ^ f.unit) :
    f.nearest num den = min f.infinity bits := by
  obtain ⟨hlow, hhigh, hodd⟩ := h
  have hparity := significand_mod_two hf bits
  have hbits := f.power_mul_add_significand bits
  have hsig := f.significand_lt bits
  have hgap := Nat.mul_le_mul_right den (halfGapBelow_le (f := f) bits)
  rw [magnitude_eq] at hlow hhigh hodd
  rw [step_eq] at hhigh hodd hgap
  generalize f.power bits = k at *
  generalize f.significand bits = q at *
  generalize hn : num * 2 ^ f.unit = n at *
  -- all that counts from here on are multiples of one unit of the significand
  have hunit : 0 < den * 2 ^ k := Nat.mul_pos hden (Nat.two_pow_pos k)
  have hlowq : 4 * (q * 2 ^ k) * den = 4 * (q * (den * 2 ^ k)) := by ring
  have hhighq : (4 * (q * 2 ^ k) + 2 * 2 ^ k) * den
      = 4 * (q * (den * 2 ^ k)) + 2 * (den * 2 ^ k) := by ring
  have hgapq : 2 * 2 ^ k * den = 2 * (den * 2 ^ k) := by ring
  have htop : (q + 1) * (den * 2 ^ k) ≤ 2 * 2 ^ f.fraction * (den * 2 ^ k) :=
    Nat.mul_le_mul_right _ hsig
  have hpow : 2 ^ (f.fraction + k + 1) * den = 2 * 2 ^ f.fraction * (den * 2 ^ k) := by
    rw [pow_succ, pow_add]
    ring
  rw [hlowq] at hlow hodd
  rw [hhighq] at hhigh hodd
  rw [hgapq] at hgap
  rw [Nat.succ_mul] at htop
  subst hbits
  refine nearest_of_shift ?_ ?_
  · rw [hn]
    exact log2_div_sub hden hle (by omega)
  · rw [hn]
    refine divideNearest_eq hunit (by omega) (by omega) fun hq => ?_
    obtain ⟨hlow', hhigh'⟩ := hodd (by omega)
    exact ⟨by omega, by omega⟩

/-- A quotient below that power of two can only round to the power itself. -/
theorem RoundsTo.significand_eq {bits num den : ℕ} (h : f.RoundsTo bits num den)
    (hpower : 0 < f.power bits)
    (hbelow : num * 2 ^ f.unit < 2 ^ (f.fraction + f.power bits) * den) :
    f.significand bits = 2 ^ f.fraction := by
  have hlow := h.low
  have hsig := f.le_significand hpower
  have hgap := Nat.mul_le_mul_right den (halfGapBelow_le (f := f) bits)
  rw [magnitude_eq] at hlow
  rw [step_eq] at hgap
  generalize f.power bits = k at *
  generalize f.significand bits = q at *
  have hlowq : 4 * (q * 2 ^ k) * den = 4 * (q * (2 ^ k * den)) := by ring
  have hbelowq : 2 ^ (f.fraction + k) * den = 2 ^ f.fraction * (2 ^ k * den) := by
    rw [pow_add, Nat.mul_assoc]
  rw [hlowq] at hlow
  rw [hbelowq] at hbelow
  rw [Nat.mul_assoc] at hgap
  by_contra hne
  have htop : (2 ^ f.fraction + 1) * (2 ^ k * den) ≤ q * (2 ^ k * den) :=
    Nat.mul_le_mul_right _ (by omega)
  rw [Nat.succ_mul] at htop
  omega

/-- A quotient below that power of two is found among the finer significands below the power. -/
theorem nearest_eq_of_lt {bits num den : ℕ} (hden : 0 < den) (h : f.RoundsTo bits num den)
    (hpower : 0 < f.power bits)
    (hbelow : num * 2 ^ f.unit < 2 ^ (f.fraction + f.power bits) * den) :
    f.nearest num den = min f.infinity bits := by
  have hsig := h.significand_eq hpower hbelow
  have hgap := halfGapBelow_of_significand_eq hpower hsig
  have hbits := f.power_mul_add_significand bits
  have hlow := h.low
  rw [magnitude_eq, hgap, step_eq, hsig] at hlow
  rw [hsig] at hbits
  generalize f.power bits = k at *
  generalize hn : num * 2 ^ f.unit = n at *
  obtain ⟨k, rfl⟩ : ∃ k', k = k' + 1 := ⟨k - 1, by omega⟩
  -- all that counts from here on are multiples of one unit of the finer significands
  have hunit : 0 < den * 2 ^ k := Nat.mul_pos hden (Nat.two_pow_pos k)
  have hlowq : 4 * (2 ^ f.fraction * 2 ^ (k + 1)) * den =
      8 * (2 ^ f.fraction * (den * 2 ^ k)) := by ring
  have hgapq : 2 ^ (k + 1) * den = 2 * (den * 2 ^ k) := by ring
  have hpow : 2 ^ (f.fraction + (k + 1)) * den = 2 * 2 ^ f.fraction * (den * 2 ^ k) := by ring
  have hleft : 2 ^ (f.fraction + k) * den = 2 ^ f.fraction * (den * 2 ^ k) := by ring
  have hpos : den * 2 ^ k ≤ 2 ^ f.fraction * (den * 2 ^ k) :=
    Nat.le_mul_of_pos_left _ (Nat.two_pow_pos _)
  rw [hlowq, hgapq] at hlow
  rw [hpow, Nat.mul_assoc] at hbelow
  have hsum : bits = k * 2 ^ f.fraction + 2 * 2 ^ f.fraction := by
    rw [← hbits]
    ring
  subst hsum
  refine nearest_of_shift ?_ ?_
  · rw [hn]
    refine log2_div_sub hden (.inr ?_) ?_
    · rw [hleft]
      omega
    · rw [Nat.add_assoc, hpow, Nat.mul_assoc]
      exact hbelow
  · rw [hn]
    refine divideNearest_eq hunit ?_ ?_ fun hodd => ?_
    · rw [Nat.mul_assoc 2]
      omega
    · rw [Nat.mul_assoc 2]
      omega
    · omega

/-- A quotient that rounds to a pattern has it as its nearest, or infinity if the pattern is none of
the finite ones. -/
theorem nearest_eq_min (hf : 0 < f.fraction) {bits num den : ℕ} (hden : 0 < den)
    (h : f.RoundsTo bits num den) : f.nearest num den = min f.infinity bits := by
  rcases Nat.eq_zero_or_pos (f.power bits) with hzero | hpos
  · exact nearest_eq_of_le hf hden h (.inl hzero)
  · rcases Nat.lt_or_ge (num * 2 ^ f.unit) (2 ^ (f.fraction + f.power bits) * den) with hn | hn
    · exact nearest_eq_of_lt hden h hpos hn
    · exact nearest_eq_of_le hf hden h (.inr hn)

/-- **Rounding finds the pattern.**  A quotient that rounds to a pattern has it as its nearest. -/
theorem nearest_eq (hf : 0 < f.fraction) {bits num den : ℕ} (hden : 0 < den)
    (hlt : bits < f.infinity) (h : f.RoundsTo bits num den) : f.nearest num den = bits := by
  rw [nearest_eq_min hf hden h, min_eq_right (Nat.le_of_lt hlt)]

/-- A magnitude rounds to its own pattern. -/
theorem roundsTo_of_eq {bits num den : ℕ} (hden : 0 < den)
    (h : num * 2 ^ f.unit = f.magnitude bits * den) : f.RoundsTo bits num den := by
  have hstep : 0 < f.step bits * den := Nat.mul_pos (Nat.two_pow_pos _) hden
  have hgap := Nat.mul_le_mul_right den (step_le_halfGapBelow (f := f) bits)
  refine ⟨?_, ?_, fun _ => ⟨?_, ?_⟩⟩ <;>
    simp only [h, Nat.add_mul, Nat.mul_assoc] <;> omega

/-- What rounds to a pattern of a finer format rounds to the pattern of the same magnitude in a
coarser one, if the gaps there are wide enough. -/
theorem RoundsTo.coarser {g : BinaryFormat} {fine coarse k num den : ℕ} (hden : 0 < den)
    (hunit : f.unit = g.unit + k) (hmagnitude : f.magnitude fine = g.magnitude coarse * 2 ^ k)
    (hstep : 2 * f.step fine < g.step coarse * 2 ^ k) (h : f.RoundsTo fine num den) :
    g.RoundsTo coarse num den := by
  obtain ⟨hlow, hhigh, -⟩ := h
  have hpos : 0 < 2 ^ k := Nat.two_pow_pos k
  have hgapFine := Nat.mul_le_mul_right den (halfGapBelow_le (f := f) fine)
  have hgapCoarse := Nat.mul_le_mul_right (den * 2 ^ k) (step_le_halfGapBelow (f := g) coarse)
  have hsteps := Nat.mul_lt_mul_of_pos_right hstep hden
  have hn : num * 2 ^ f.unit = num * 2 ^ g.unit * 2 ^ k := by
    rw [hunit, pow_add]
    ring
  rw [hn, hmagnitude] at hlow hhigh
  have hlow' : 4 * g.magnitude coarse * den <
      4 * (num * 2 ^ g.unit) + g.halfGapBelow coarse * den := by
    refine Nat.lt_of_mul_lt_mul_right (a := 2 ^ k) ?_
    calc 4 * g.magnitude coarse * den * 2 ^ k
        = 4 * (g.magnitude coarse * 2 ^ k) * den := by ring
      _ ≤ 4 * (num * 2 ^ g.unit * 2 ^ k) + f.halfGapBelow fine * den := hlow
      _ < 4 * (num * 2 ^ g.unit * 2 ^ k) + g.halfGapBelow coarse * (den * 2 ^ k) := by
        have : g.step coarse * 2 ^ k * den = g.step coarse * (den * 2 ^ k) := by ring
        omega
      _ = (4 * (num * 2 ^ g.unit) + g.halfGapBelow coarse * den) * 2 ^ k := by ring
  have hhigh' : 4 * (num * 2 ^ g.unit) <
      (4 * g.magnitude coarse + 2 * g.step coarse) * den := by
    refine Nat.lt_of_mul_lt_mul_right (a := 2 ^ k) ?_
    calc 4 * (num * 2 ^ g.unit) * 2 ^ k
        = 4 * (num * 2 ^ g.unit * 2 ^ k) := by ring
      _ ≤ (4 * (g.magnitude coarse * 2 ^ k) + 2 * f.step fine) * den := hhigh
      _ < (4 * (g.magnitude coarse * 2 ^ k) + 2 * (g.step coarse * 2 ^ k)) * den :=
        Nat.mul_lt_mul_of_pos_right (by omega) hden
      _ = (4 * g.magnitude coarse + 2 * g.step coarse) * den * 2 ^ k := by ring
  exact ⟨Nat.le_of_lt hlow', Nat.le_of_lt hhigh', fun _ => ⟨hlow', hhigh'⟩⟩

/-! ### Bounds -/

/-- A format with room for a leading bit and for finite data. -/
structure Proper (f : BinaryFormat) : Prop where
  fraction_pos : 0 < f.fraction
  two_le_exponent : 2 ≤ f.exponent

theorem proper_double : double.Proper := ⟨by decide, by decide⟩

theorem proper_single : single.Proper := ⟨by decide, by decide⟩

theorem significand_pos {bits : ℕ} (h : 0 < bits) : 0 < f.significand bits := by
  have hadd := f.power_mul_add_significand bits
  rcases Nat.eq_zero_or_pos (f.power bits) with hzero | hpos
  · rw [hzero] at hadd
    omega
  · exact Nat.lt_of_lt_of_le (Nat.two_pow_pos _) (f.le_significand hpos)

theorem step_le_magnitude {bits : ℕ} (h : 0 < bits) : f.step bits ≤ f.magnitude bits := by
  rw [magnitude_eq, step_eq]
  exact Nat.le_mul_of_pos_left _ (significand_pos h)

/-- What rounds to a pattern other than zero is at least half a unit. -/
theorem RoundsTo.den_le {bits num den : ℕ} (hbits : 0 < bits) (h : f.RoundsTo bits num den) :
    den ≤ 2 * (num * 2 ^ f.unit) := by
  have hmagnitude := Nat.mul_le_mul_right den (step_le_magnitude (f := f) hbits)
  have hgap := Nat.mul_le_mul_right den (halfGapBelow_le (f := f) bits)
  have hstep : den ≤ f.step bits * den := Nat.le_mul_of_pos_left _ (Nat.two_pow_pos _)
  have hlow := h.low
  rw [Nat.mul_assoc] at hlow hgap
  omega

theorem power_lt (hf : f.Proper) {bits : ℕ} (h : bits < f.infinity) :
    f.power bits + 3 ≤ 2 ^ f.exponent := by
  have hpow : 2 ^ 2 ≤ 2 ^ f.exponent := Nat.pow_le_pow_right (by decide) hf.two_le_exponent
  have hquot : bits / 2 ^ f.fraction < 2 ^ f.exponent - 1 :=
    (Nat.div_lt_iff_lt_mul (Nat.two_pow_pos _)).mpr h
  have hpower : f.power bits = bits / 2 ^ f.fraction - 1 := rfl
  omega

/-- What rounds to a finite pattern is less than the next power of two after all finite
magnitudes. -/
theorem RoundsTo.num_lt (hf : f.Proper) {bits num den : ℕ} (hden : 0 < den)
    (hlt : bits < f.infinity) (h : f.RoundsTo bits num den) :
    num * 2 ^ f.unit < 2 ^ (f.fraction + 2 ^ f.exponent - 2) * den := by
  have hpower := power_lt hf hlt
  have hsig := f.significand_lt bits
  have hhigh := h.high
  rw [magnitude_eq, step_eq] at hhigh
  have hpow : 2 * 2 ^ f.fraction * 2 ^ f.power bits ≤ 2 ^ (f.fraction + 2 ^ f.exponent - 2) := by
    calc 2 * 2 ^ f.fraction * 2 ^ f.power bits = 2 ^ (f.fraction + f.power bits + 1) := by ring
      _ ≤ 2 ^ (f.fraction + 2 ^ f.exponent - 2) := Nat.pow_le_pow_right (by decide) (by omega)
  have htop : (f.significand bits + 1) * 2 ^ f.power bits ≤
      2 ^ (f.fraction + 2 ^ f.exponent - 2) :=
    Nat.le_trans (Nat.mul_le_mul_right _ hsig) hpow
  rw [Nat.succ_mul] at htop
  have hstep : 0 < 2 ^ f.power bits * den := Nat.mul_pos (Nat.two_pow_pos _) hden
  have hall := Nat.mul_le_mul_right den htop
  rw [Nat.add_mul] at hall
  rw [Nat.add_mul, Nat.mul_assoc 4, Nat.mul_assoc 2] at hhigh
  omega

end BinaryFormat

/-! ### Decimals -/

namespace Decimal

theorem lt_pow_digitCount (c : ℕ) : c < 10 ^ digitCount c := by
  have hpos : 0 < digitCount c := List.length_pos_iff.mpr Nat.toDigits_ne_nil
  exact (Nat.length_toDigits_le_iff (by decide) hpos).mp le_rfl

theorem pow_digitCount_le {c : ℕ} (h : c ≠ 0) : 10 ^ (digitCount c - 1) ≤ c := by
  by_contra hlt
  rcases Nat.eq_zero_or_pos (digitCount c - 1) with hzero | hpos
  · rw [hzero] at hlt
    omega
  · have hle : digitCount c ≤ digitCount c - 1 :=
      (Nat.length_toDigits_le_iff (by decide) hpos).mpr (Nat.lt_of_not_le hlt)
    omega

/-- The numerator of a decimal as a quotient. -/
def num (d : Decimal) : ℕ := d.coefficient * 10 ^ d.exponent.toNat

/-- The denominator of a decimal as a quotient. -/
def den (d : Decimal) : ℕ := 10 ^ (-d.exponent).toNat

theorem den_pos (d : Decimal) : 0 < d.den := Nat.pow_pos (by decide)

theorem exponent_eq (d : Decimal) :
    d.exponent = (d.exponent.toNat : ℤ) - ((-d.exponent).toNat : ℤ) := by
  omega

variable {f : BinaryFormat} {d : Decimal}

/-- A decimal with many digits in front of its point is as great as this many tens. -/
theorem pow_mul_den_le (hc : d.coefficient ≠ 0) {k : ℕ}
    (h : (k : ℤ) < digitCount d.coefficient + d.exponent) : 10 ^ k * d.den ≤ d.num := by
  have hexp := d.exponent_eq
  calc 10 ^ k * d.den = 10 ^ (k + (-d.exponent).toNat) := (pow_add _ _ _).symm
    _ ≤ 10 ^ (digitCount d.coefficient - 1 + d.exponent.toNat) :=
      Nat.pow_le_pow_right (by decide) (by omega)
    _ = 10 ^ (digitCount d.coefficient - 1) * 10 ^ d.exponent.toNat := pow_add _ _ _
    _ ≤ d.num := Nat.mul_le_mul_right _ (pow_digitCount_le hc)

/-- A decimal that begins far behind its point is as small as this many tens. -/
theorem num_mul_pow_lt {k : ℕ} (h : digitCount d.coefficient + d.exponent < -(k : ℤ)) :
    10 * (d.num * 10 ^ k) < d.den := by
  have hexp := d.exponent_eq
  have hnum : d.num < 10 ^ (digitCount d.coefficient + d.exponent.toNat) := by
    rw [pow_add]
    exact Nat.mul_lt_mul_of_pos_right (lt_pow_digitCount _) (Nat.pow_pos (by decide))
  calc 10 * (d.num * 10 ^ k) = d.num * 10 ^ (k + 1) := by ring
    _ < 10 ^ (digitCount d.coefficient + d.exponent.toNat) * 10 ^ (k + 1) :=
      Nat.mul_lt_mul_of_pos_right hnum (Nat.pow_pos (by decide))
    _ = 10 ^ (digitCount d.coefficient + d.exponent.toNat + (k + 1)) := (pow_add _ _ _).symm
    _ ≤ d.den := Nat.pow_le_pow_right (by decide) (by omega)

/-- No finite pattern reaches as many digits in front of the point as the format has places behind
it. -/
theorem two_pow_le_pow_unit (hf : f.Proper) :
    2 ^ (f.fraction + 2 ^ f.exponent - 2) ≤ 10 ^ f.unit * 2 ^ f.unit := by
  have hunit : f.unit = 2 ^ (f.exponent - 1) - 2 + f.fraction := rfl
  have hfraction := hf.fraction_pos
  have hexponent := hf.two_le_exponent
  have htwo : 2 ^ 1 ≤ 2 ^ (f.exponent - 1) := Nat.pow_le_pow_right (by decide) (by omega)
  have hdouble : 2 ^ f.exponent = 2 * 2 ^ (f.exponent - 1) := by
    obtain ⟨e, he⟩ : ∃ e, f.exponent = e + 1 := ⟨f.exponent - 1, by omega⟩
    rw [he, Nat.add_sub_cancel, pow_succ, Nat.mul_comm]
  calc 2 ^ (f.fraction + 2 ^ f.exponent - 2) ≤ 2 ^ (3 * f.unit + f.unit) :=
        Nat.pow_le_pow_right (by decide) (by omega)
    _ = (2 ^ 3) ^ f.unit * 2 ^ f.unit := by rw [pow_add, pow_mul]
    _ ≤ 10 ^ f.unit * 2 ^ f.unit := Nat.mul_le_mul_right _ (Nat.pow_le_pow_left (by decide) _)

/-- A decimal not far outside the format's range has the nearest pattern of its quotient. -/
theorem nearest_of_near (hc : d.coefficient ≠ 0)
    (htop : ¬ (f.unit : ℤ) < digitCount d.coefficient + d.exponent)
    (hbottom : ¬ digitCount d.coefficient + d.exponent < -(f.unit : ℤ)) :
    d.nearest f = f.nearest d.num d.den := by
  rw [nearest, if_neg hc, if_neg htop, if_neg hbottom]
  by_cases hexp : 0 ≤ d.exponent
  · have hone : d.den = 1 := by
      rw [den, Int.toNat_eq_zero.mpr (by omega), pow_zero]
    rw [if_pos hexp, hone]
    rfl
  · have hnum : d.num = d.coefficient := by
      rw [num, Int.toNat_eq_zero.mpr (by omega), pow_zero, Nat.mul_one]
    have habs : (-d.exponent).toNat = d.exponent.natAbs := by omega
    rw [if_neg hexp, hnum, den, habs]
    rfl

/-- **Decimals round to patterns.**  A decimal that rounds to a finite pattern other than zero has
it as its nearest, however long the decimal is. -/
theorem nearest_eq (hf : f.Proper) {bits : ℕ} (hpos : 0 < bits) (hlt : bits < f.infinity)
    (h : f.RoundsTo bits d.num d.den) : d.nearest f = bits := by
  have hden := d.den_pos
  have hlow := h.den_le hpos
  have hhigh := h.num_lt hf hden hlt
  have hquot := BinaryFormat.nearest_eq hf.fraction_pos hden hlt h
  have hc : d.coefficient ≠ 0 := by
    intro hzero
    rw [num, hzero, Nat.zero_mul] at hlow
    omega
  have htop : ¬ (f.unit : ℤ) < digitCount d.coefficient + d.exponent := by
    intro htop
    have hnum := Nat.mul_le_mul_right (2 ^ f.unit) (pow_mul_den_le hc htop)
    have hpow := Nat.mul_le_mul_right d.den (two_pow_le_pow_unit hf)
    rw [Nat.mul_right_comm] at hpow
    omega
  have hbottom : ¬ digitCount d.coefficient + d.exponent < -(f.unit : ℤ) := by
    intro hbottom
    have hsmall := num_mul_pow_lt hbottom
    have hpow := Nat.mul_le_mul_left d.num (Nat.pow_le_pow_left (show 2 ≤ 10 by decide) f.unit)
    omega
  rw [nearest_of_near hc htop hbottom, hquot]

end Decimal

end RouteTemplate
