import RouteTemplate.Proofs.Rounding

/-!
# RouteTemplate.Proofs.Neighbours — the numbers between two patterns

The numbers that round to a pattern end where those that round to the next one begin
(`BinaryFormat.middle_succ`).  So every quotient rounds to some pattern
(`BinaryFormat.exists_roundsTo`), a pattern is the nearest of a decimal only if the decimal rounds
to it (`Decimal.nearest_eq_iff`), and a lesser number rounds to no greater pattern
(`Decimal.nearest_mono`).
-/

namespace RouteTemplate

namespace BinaryFormat

variable {f : BinaryFormat}

/-! ### The next pattern -/

/-- A pattern without sign has two fields. -/
theorem exists_fields (f : BinaryFormat) (bits : ℕ) :
    ∃ q r, r < 2 ^ f.fraction ∧ bits = q * 2 ^ f.fraction + r :=
  ⟨bits / 2 ^ f.fraction, bits % 2 ^ f.fraction, Nat.mod_lt _ (Nat.two_pow_pos _),
    (Nat.div_add_mod' bits _).symm⟩

/-- What the two fields of a pattern say of it. -/
theorem fields {q r : ℕ} (hr : r < 2 ^ f.fraction) :
    f.power (q * 2 ^ f.fraction + r) = q - 1 ∧
      f.significand (q * 2 ^ f.fraction + r) = (if q = 0 then r else 2 ^ f.fraction + r) ∧
      f.halfGapBelow (q * 2 ^ f.fraction + r) =
        if r = 0 ∧ 1 < q then 2 ^ (q - 1) else 2 * 2 ^ (q - 1) := by
  have hpos : 0 < 2 ^ f.fraction := Nat.two_pow_pos _
  have hquot : (q * 2 ^ f.fraction + r) / 2 ^ f.fraction = q := by
    rw [Nat.mul_comm, Nat.mul_add_div hpos, Nat.div_eq_of_lt hr, Nat.add_zero]
  have hrest : (q * 2 ^ f.fraction + r) % 2 ^ f.fraction = r := by
    rw [Nat.mul_comm, Nat.mul_add_mod, Nat.mod_eq_of_lt hr]
  have hpower : f.power (q * 2 ^ f.fraction + r) = q - 1 := congrArg (· - 1) hquot
  refine ⟨hpower, ?_, ?_⟩
  · have hadd := f.power_mul_add_significand (q * 2 ^ f.fraction + r)
    rw [hpower] at hadd
    cases q with
    | zero => simpa using hadd
    | succ q =>
      rw [if_neg (Nat.succ_ne_zero q)]
      rw [Nat.add_sub_cancel] at hadd
      have hmul : (q + 1) * 2 ^ f.fraction = q * 2 ^ f.fraction + 2 ^ f.fraction :=
        Nat.succ_mul q _
      omega
  · have hgap : f.halfGapBelow (q * 2 ^ f.fraction + r) =
        if (q * 2 ^ f.fraction + r) % 2 ^ f.fraction = 0 ∧
          1 < (q * 2 ^ f.fraction + r) / 2 ^ f.fraction then f.step (q * 2 ^ f.fraction + r)
        else 2 * f.step (q * 2 ^ f.fraction + r) := rfl
    rw [hgap, hquot, hrest, step_eq, hpower]

/-- The half gap below a pattern is half a step, or a quarter of one below a power of two. -/
theorem halfGapBelow_cases (bits : ℕ) :
    f.halfGapBelow bits = 2 * f.step bits ∨
      f.halfGapBelow bits = f.step bits ∧ f.significand bits = 2 ^ f.fraction := by
  obtain ⟨q, r, hr, rfl⟩ := f.exists_fields bits
  obtain ⟨hpower, hsig, hgap⟩ := fields (f := f) (q := q) hr
  rw [step_eq, hpower, hsig, hgap]
  by_cases h : r = 0 ∧ 1 < q
  · rw [if_pos h, if_neg (by omega), h.1]
    exact .inr ⟨rfl, rfl⟩
  · rw [if_neg h]
    exact .inl rfl

/-- The next magnitude is a step away, and half of that step is the half gap below it. -/
theorem succ_spec (bits : ℕ) :
    f.magnitude (bits + 1) = f.magnitude bits + f.step bits ∧
      f.halfGapBelow (bits + 1) = 2 * f.step bits := by
  obtain ⟨q, r, hr, rfl⟩ := f.exists_fields bits
  obtain ⟨hpower, hsig, -⟩ := fields (f := f) (q := q) hr
  rw [magnitude_eq, magnitude_eq, step_eq, hpower, hsig]
  rcases Nat.lt_or_ge (r + 1) (2 ^ f.fraction) with hlt | hge
  · -- the next significand of the same power
    obtain ⟨hpower', hsig', hgap'⟩ := fields (f := f) (q := q) hlt
    have hinner : ¬ (r + 1 = 0 ∧ 1 < q) := by omega
    rw [Nat.add_assoc, hpower', hsig', hgap', if_neg hinner]
    refine ⟨?_, rfl⟩
    cases q with
    | zero => exact Nat.succ_mul r _
    | succ q => exact Nat.succ_mul (2 ^ f.fraction + r) _
  · -- the next power of two
    have hlast : r + 1 = 2 ^ f.fraction := by omega
    have hnext : q * 2 ^ f.fraction + r + 1 = (q + 1) * 2 ^ f.fraction + 0 := by
      rw [Nat.add_assoc, hlast]
      ring
    obtain ⟨hpower', hsig', hgap'⟩ := fields (f := f) (q := q + 1) (Nat.two_pow_pos _)
    rw [hnext, hpower', hsig', hgap', ← hlast]
    cases q with
    | zero => exact ⟨Nat.succ_mul r _, rfl⟩
    | succ q =>
      simp only [Nat.succ_ne_zero, if_false, Nat.add_sub_cancel, true_and, pow_succ]
      rw [if_pos (by omega)]
      exact ⟨by ring, by ring⟩

/-- The middle of the gap above a pattern is the middle of the gap below the next one. -/
theorem middle_succ (bits : ℕ) :
    4 * f.magnitude bits + 2 * f.step bits + f.halfGapBelow (bits + 1) =
      4 * f.magnitude (bits + 1) := by
  obtain ⟨hmagnitude, hgap⟩ := f.succ_spec bits
  omega

/-- What rounds to a pattern is not above what rounds to a greater one. -/
theorem middle_le {bits bits' : ℕ} (h : bits < bits') :
    4 * f.magnitude bits + 2 * f.step bits + f.halfGapBelow bits' ≤ 4 * f.magnitude bits' := by
  induction bits', h using Nat.le_induction with
  | base => exact (f.middle_succ bits).le
  | succ bits' _ ih =>
    have hmiddle := f.middle_succ bits'
    have hstep : 0 < f.step bits' := Nat.two_pow_pos _
    omega

theorem middle_lt {bits bits' : ℕ} (h : bits + 1 < bits') :
    4 * f.magnitude bits + 2 * f.step bits + f.halfGapBelow bits' < 4 * f.magnitude bits' := by
  have hmiddle := f.middle_le h
  have hnext := f.succ_spec bits
  have hstep : 0 < f.step (bits + 1) := Nat.two_pow_pos _
  omega

theorem le_magnitude (bits : ℕ) : bits ≤ f.magnitude bits := by
  induction bits with
  | zero => exact Nat.zero_le _
  | succ bits ih =>
    have hstep : 0 < f.step bits := Nat.two_pow_pos _
    rw [(f.succ_spec bits).1]
    omega

/-! ### Every quotient -/

/-- The least pattern whose upper end a quotient does not pass has its lower end below the
quotient. -/
theorem exists_between (num : ℕ) {den : ℕ} (hden : 0 < den) :
    ∃ bits, 4 * f.magnitude bits * den < 4 * (num * 2 ^ f.unit) + f.halfGapBelow bits * den ∧
      4 * (num * 2 ^ f.unit) ≤ (4 * f.magnitude bits + 2 * f.step bits) * den := by
  have hex : ∃ bits, 4 * (num * 2 ^ f.unit) ≤ (4 * f.magnitude bits + 2 * f.step bits) * den := by
    refine ⟨num * 2 ^ f.unit, ?_⟩
    calc 4 * (num * 2 ^ f.unit)
        ≤ 4 * f.magnitude (num * 2 ^ f.unit) + 2 * f.step (num * 2 ^ f.unit) :=
          Nat.le_add_right_of_le (Nat.mul_le_mul_left 4 (f.le_magnitude _))
      _ ≤ _ := Nat.le_mul_of_pos_right _ hden
  classical
  have hmin : ∀ b < Nat.find hex, ¬ 4 * (num * 2 ^ f.unit) ≤
      (4 * f.magnitude b + 2 * f.step b) * den := fun b => Nat.find_min hex
  refine ⟨Nat.find hex, ?_, Nat.find_spec hex⟩
  generalize Nat.find hex = bits at hmin
  cases bits with
  | zero =>
    have hstep : 0 < f.step 0 := Nat.two_pow_pos _
    have hgap : 0 < f.halfGapBelow 0 * den :=
      Nat.mul_pos (hstep.trans_le (step_le_halfGapBelow 0)) hden
    rw [magnitude_zero, Nat.mul_zero, Nat.zero_mul]
    omega
  | succ b =>
    have hlt := Nat.lt_of_not_le (hmin b b.lt_succ_self)
    rw [← f.middle_succ b, Nat.add_mul]
    omega

/-- Every quotient rounds to a pattern, on a tie to the even one of two. -/
theorem exists_roundsTo (num : ℕ) {den : ℕ} (hden : 0 < den) : ∃ bits, f.RoundsTo bits num den := by
  obtain ⟨bits, hlow, hhigh⟩ := f.exists_between num hden
  by_cases htie : bits % 2 = 1 ∧
      4 * (num * 2 ^ f.unit) = (4 * f.magnitude bits + 2 * f.step bits) * den
  · obtain ⟨hodd, heq⟩ := htie
    have hmiddle : 4 * (num * 2 ^ f.unit) + f.halfGapBelow (bits + 1) * den =
        4 * f.magnitude (bits + 1) * den := by
      rw [← f.middle_succ bits, Nat.add_mul, heq]
    refine ⟨bits + 1, hmiddle.ge, ?_, fun h => by omega⟩
    have hnext := f.succ_spec bits
    rw [heq]
    refine Nat.mul_le_mul_right _ ?_
    omega
  · refine ⟨bits, hlow.le, hhigh, fun hodd => ⟨hlow, ?_⟩⟩
    exact Nat.lt_of_le_of_ne hhigh fun heq => htie ⟨hodd, heq⟩

/-- A finite pattern is the nearest of exactly the quotients that round to it. -/
theorem nearest_eq_iff (hf : f.Proper) {bits num den : ℕ} (hden : 0 < den)
    (hlt : bits < f.infinity) : f.nearest num den = bits ↔ f.RoundsTo bits num den := by
  constructor
  · intro h
    obtain ⟨b, hb⟩ := f.exists_roundsTo num hden
    have hmin := nearest_eq_min hf.fraction_pos hden hb
    rw [h] at hmin
    obtain rfl : bits = b := by omega
    exact hb
  · exact nearest_eq hf.fraction_pos hden hlt

/-- The numbers that round to a pattern are below those that round to a greater one: they can only
meet in the middle between an even and an odd pattern, which rounds to the even one. -/
theorem RoundsTo.lt_of_lt {bits bits' num den num' den' : ℕ} (hden : 0 < den) (hden' : 0 < den')
    (h : f.RoundsTo bits num den) (h' : f.RoundsTo bits' num' den') (hlt : bits < bits') :
    num * den' < num' * den := by
  have hmiddle := Nat.mul_le_mul_right (den * den') (f.middle_le hlt)
  have hhigh := Nat.mul_le_mul_right den' h.high
  have hlow := Nat.mul_le_mul_right den h'.low
  -- all three in the same unit
  have hends : (4 * f.magnitude bits + 2 * f.step bits + f.halfGapBelow bits') * (den * den') =
      (4 * f.magnitude bits + 2 * f.step bits) * den * den' +
        f.halfGapBelow bits' * den' * den := by ring
  have htop : 4 * f.magnitude bits' * (den * den') = 4 * f.magnitude bits' * den' * den := by ring
  have hnum : 4 * (num * 2 ^ f.unit) * den' = num * den' * (4 * 2 ^ f.unit) := by ring
  have hnum' : 4 * (num' * 2 ^ f.unit) * den = num' * den * (4 * 2 ^ f.unit) := by ring
  rw [hnum] at hhigh
  rw [Nat.add_mul, hnum'] at hlow
  refine Nat.lt_of_mul_lt_mul_right (a := 4 * 2 ^ f.unit) ?_
  by_cases hodd : bits % 2 = 1
  · have hstrict := Nat.mul_lt_mul_of_pos_right (h.odd hodd).2 hden'
    rw [hnum] at hstrict
    rw [hends, htop] at hmiddle
    omega
  by_cases hodd' : bits' % 2 = 1
  · have hstrict := Nat.mul_lt_mul_of_pos_right (h'.odd hodd').1 hden
    rw [Nat.add_mul, hnum'] at hstrict
    rw [hends, htop] at hmiddle
    omega
  · have hapart : bits + 1 < bits' := by omega
    have hstrict := Nat.mul_lt_mul_of_pos_right (f.middle_lt hapart) (Nat.mul_pos hden hden')
    rw [hends, htop] at hstrict
    omega

end BinaryFormat

namespace Decimal

variable {f : BinaryFormat} {d d' : Decimal} {bits : ℕ}

/-- A finite pattern other than zero is the nearest of exactly the decimals that round to it. -/
theorem nearest_eq_iff (hf : f.Proper) (hpos : 0 < bits) (hlt : bits < f.infinity) :
    d.nearest f = bits ↔ f.RoundsTo bits d.num d.den := by
  refine ⟨fun h => ?_, nearest_eq hf hpos hlt⟩
  have hc : d.coefficient ≠ 0 := by
    intro hzero
    rw [nearest, if_pos hzero] at h
    omega
  have htop : ¬ (f.unit : ℤ) < digitCount d.coefficient + d.exponent := by
    intro htop
    rw [nearest, if_neg hc, if_pos htop] at h
    omega
  have hbottom : ¬ digitCount d.coefficient + d.exponent < -(f.unit : ℤ) := by
    intro hbottom
    rw [nearest, if_neg hc, if_neg htop, if_pos hbottom] at h
    omega
  rw [← BinaryFormat.nearest_eq_iff hf d.den_pos hlt, ← nearest_of_near hc htop hbottom]
  exact h

/-- **Rounding is monotone.**  The lesser one of two decimals has no greater pattern. -/
theorem nearest_mono (hf : f.Proper) (hpos : 0 < d.nearest f) (hlt : d.nearest f < f.infinity)
    (hpos' : 0 < d'.nearest f) (hlt' : d'.nearest f < f.infinity)
    (h : d.num * d'.den ≤ d'.num * d.den) : d.nearest f ≤ d'.nearest f := by
  have hround := (nearest_eq_iff hf hpos hlt).mp rfl
  have hround' := (nearest_eq_iff hf hpos' hlt').mp rfl
  by_contra hgt
  have hlt := hround'.lt_of_lt d'.den_pos d.den_pos hround (Nat.lt_of_not_le hgt)
  omega

end Decimal

end RouteTemplate
