import RouteTemplate.Proofs.FloatText
import RouteTemplate.Proofs.ScalarLoad

/-!
# RouteTemplate.Proofs.FloatLoad — floating-point numbers that go through a path

A floating-point number is written with the shortest digits of its double-precision value.  Read in
the format that it came from, these digits give the number again: in double precision because they
round to it, and in single precision because widening changes no value and all that rounds to the
widened number lies well within the gaps around the narrow one (`BinaryFormat.widens_widen`).  So
every number comes out of a path equal to what went in (`Template.load_float_of_build`).
-/

namespace RouteTemplate

namespace BinaryFormat

/-- Data that are equal as numbers: a zero equals a zero whatever its sign, and here what is not a
number equals itself. -/
inductive Datum.Equals : Datum → Datum → Prop
  | nan : Equals .nan .nan
  | infinite (negative : Bool) : Equals (.infinite negative) (.infinite negative)
  | zero (negative negative' : Bool) : Equals (.finite negative 0) (.finite negative' 0)
  | finite (negative : Bool) (magnitude : ℕ) :
    Equals (.finite negative magnitude) (.finite negative magnitude)

theorem Datum.Equals.refl (x : Datum) : x.Equals x := by
  cases x with
  | nan => exact .nan
  | infinite negative => exact .infinite negative
  | finite negative magnitude => exact .finite negative magnitude

variable {f : BinaryFormat} {b : ℕ}

/-! ### Signs -/

theorem absolute_withSign (h : b < f.signBit) (negative : Bool) :
    f.absolute (f.withSign negative b) = b := by
  cases negative with
  | false => exact Nat.mod_eq_of_lt h
  | true => exact (Nat.add_mod_left f.signBit b).trans (Nat.mod_eq_of_lt h)

theorem isNegative_withSign (h : b < f.signBit) (negative : Bool) :
    f.isNegative (f.withSign negative b) = negative := by
  have hpos : 0 < f.signBit := Nat.two_pow_pos _
  have hzero : b / f.signBit = 0 := Nat.div_eq_of_lt h
  cases negative with
  | false => simp [isNegative, withSign, hzero]
  | true => simp [isNegative, withSign, Nat.add_div_left b hpos, hzero]

theorem withSign_lt (h : b < f.signBit) (negative : Bool) :
    f.withSign negative b < 2 * f.signBit := by
  rw [withSign]
  split_ifs <;> omega

/-- Every pattern is a sign and a pattern without sign. -/
theorem exists_withSign {bits : ℕ} (h : bits < 2 * f.signBit) :
    ∃ negative b, b < f.signBit ∧ bits = f.withSign negative b := by
  rcases Nat.lt_or_ge bits f.signBit with hlt | hle
  · exact ⟨false, bits, hlt, rfl⟩
  · refine ⟨true, bits - f.signBit, by omega, ?_⟩
    exact (Nat.add_sub_cancel' hle).symm

/-! ### Data -/

theorem infinity_pos (hf : f.Proper) : 0 < f.infinity := by
  have hpow : 2 ^ 2 ≤ 2 ^ f.exponent := Nat.pow_le_pow_right (by decide) hf.two_le_exponent
  have hpos : 0 < 2 ^ f.exponent - 1 := by omega
  exact Nat.mul_pos hpos (Nat.two_pow_pos _)

theorem infinity_lt_signBit : f.infinity < f.signBit := by
  have hpow : 0 < 2 ^ f.exponent := Nat.two_pow_pos _
  have hsign : f.signBit = 2 ^ f.exponent * 2 ^ f.fraction := pow_add _ _ _
  rw [hsign]
  exact Nat.mul_lt_mul_of_pos_right (Nat.sub_one_lt_of_lt hpow) (Nat.two_pow_pos _)

theorem datum_withSign (h : b < f.signBit) (negative : Bool) :
    f.datum (f.withSign negative b) =
      if f.infinity < b then .nan
      else if b = f.infinity then .infinite negative
      else .finite negative (f.magnitude b) := by
  rw [datum, absolute_withSign h, isNegative_withSign h]

theorem datum_finite (h : b < f.infinity) (negative : Bool) :
    f.datum (f.withSign negative b) = .finite negative (f.magnitude b) := by
  rw [datum_withSign (h.trans infinity_lt_signBit), if_neg (Nat.not_lt_of_gt h),
    if_neg (Nat.ne_of_lt h)]

theorem datum_nan (hinfinity : f.infinity < b) (h : b < f.signBit) (negative : Bool) :
    f.datum (f.withSign negative b) = .nan := by
  rw [datum_withSign h, if_pos hinfinity]

theorem datum_infinity (negative : Bool) :
    f.datum (f.withSign negative f.infinity) = .infinite negative := by
  rw [datum_withSign infinity_lt_signBit, if_neg (Nat.lt_irrefl _), if_pos rfl]

theorem datum_zero (hf : f.Proper) (negative : Bool) :
    f.datum (f.withSign negative 0) = .finite negative 0 := by
  rw [datum_finite (infinity_pos hf), magnitude_zero]

theorem quietNaN_lt_signBit (hf : f.Proper) : f.quietNaN < f.signBit := by
  have hfraction := hf.fraction_pos
  have hpow : 2 ^ (f.fraction - 1) < 2 ^ f.fraction :=
    Nat.pow_lt_pow_right (by decide) (by omega)
  have hexp : 2 ^ f.exponent - 1 + 1 = 2 ^ f.exponent := Nat.sub_add_cancel Nat.one_le_two_pow
  calc f.quietNaN = (2 ^ f.exponent - 1) * 2 ^ f.fraction + 2 ^ (f.fraction - 1) := rfl
    _ < (2 ^ f.exponent - 1) * 2 ^ f.fraction + 2 ^ f.fraction := Nat.add_lt_add_left hpow _
    _ = 2 ^ (f.exponent + f.fraction) := by rw [← Nat.succ_mul, Nat.succ_eq_add_one, hexp, pow_add]

theorem datum_quietNaN (hf : f.Proper) : f.datum f.quietNaN = .nan := by
  have hlt : f.infinity < f.quietNaN := Nat.lt_add_of_pos_right (Nat.two_pow_pos _)
  exact datum_nan hlt (quietNaN_lt_signBit hf) false

/-- The pattern of a datum is one of the format. -/
theorem encode_lt (hf : f.Proper) (g : BinaryFormat) (x : Datum) :
    f.encode g x < 2 * f.signBit := by
  cases x with
  | nan =>
    have hlt := quietNaN_lt_signBit hf
    change f.quietNaN < 2 * f.signBit
    omega
  | infinite negative => exact withSign_lt infinity_lt_signBit negative
  | finite negative m =>
    have hle : f.nearest m (Nat.pow 2 g.unit) ≤ f.infinity := min_le_left _ _
    exact withSign_lt (Nat.lt_of_le_of_lt hle infinity_lt_signBit) negative

/-! ### Widening -/

/-- A double-precision pattern stands for what a pattern of another format does, and finite numbers
round to the latter whenever they round to the former. -/
inductive Widens (f : BinaryFormat) (wide bits : ℕ) : Prop
  | nan (hwide : double.datum wide = .nan) (hbits : f.datum bits = .nan)
  | infinite {negative : Bool} (hwide : double.datum wide = .infinite negative)
    (hbits : f.datum bits = .infinite negative)
  | zero {negative : Bool} (hwide : double.datum wide = .finite negative 0)
    (hbits : f.datum bits = .finite negative 0)
  | finite {negative : Bool} {w b : ℕ} (hwide : wide = double.withSign negative w)
    (hbits : bits = f.withSign negative b) (hw : 0 < w) (hwlt : w < double.infinity) (hb : 0 < b)
    (hblt : b < f.infinity)
    (hrounds : ∀ num den, 0 < den → double.RoundsTo w num den → f.RoundsTo b num den)

/-- Double precision needs no widening. -/
theorem widens_self {bits : ℕ} (h : bits < 2 * double.signBit) : double.Widens bits bits := by
  obtain ⟨negative, b, hb, rfl⟩ := exists_withSign h
  rcases Nat.lt_trichotomy b double.infinity with hlt | rfl | hgt
  · rcases Nat.eq_zero_or_pos b with rfl | hpos
    · exact .zero (datum_zero proper_double negative) (datum_zero proper_double negative)
    · exact .finite rfl rfl hpos hlt hpos hlt fun _ _ _ hrounds => hrounds
  · exact .infinite (datum_infinity negative) (datum_infinity negative)
  · exact .nan (datum_nan hgt hb negative) (datum_nan hgt hb negative)

/-- A significand moved up until its leading bit is at the place for it. -/
theorem normalized {p q : ℕ} (hq : 0 < q) (hlog : Nat.log2 q ≤ p) :
    2 ^ p ≤ q * 2 ^ (p - Nat.log2 q) ∧ q * 2 ^ (p - Nat.log2 q) < 2 * 2 ^ p := by
  have hlow := Nat.log2_self_le (Nat.ne_of_gt hq)
  have hhigh := Nat.lt_log2_self (n := q)
  constructor
  · calc 2 ^ p = 2 ^ Nat.log2 q * 2 ^ (p - Nat.log2 q) := by
          rw [← pow_add, Nat.add_sub_cancel' hlog]
      _ ≤ q * 2 ^ (p - Nat.log2 q) := Nat.mul_le_mul_right _ hlow
  · calc q * 2 ^ (p - Nat.log2 q) < 2 ^ (Nat.log2 q + 1) * 2 ^ (p - Nat.log2 q) :=
          Nat.mul_lt_mul_of_pos_right hhigh (Nat.two_pow_pos _)
      _ = 2 ^ (p + 1) := by
        rw [← pow_add]
        congr 1
        omega
      _ = 2 * 2 ^ p := pow_succ' _ _

/-- A finite single-precision pattern has its magnitude in double precision as well, where the gaps
are much narrower. -/
theorem exists_double {b : ℕ} (hb : 0 < b) (hlt : b < single.infinity) :
    ∃ w, 0 < w ∧ w < double.infinity ∧
      double.magnitude w = single.magnitude b * 2 ^ (double.unit - single.unit) ∧
      2 * double.step w < single.step b * 2 ^ (double.unit - single.unit) := by
  have hunit : double.unit - single.unit = 925 := rfl
  have hfraction : double.fraction = 52 := rfl
  have hinfinity : double.infinity = 2047 * 2 ^ double.fraction := rfl
  have hpower : single.power b + 3 ≤ 2 ^ 8 := power_lt proper_single hlt
  have hsigLt : single.significand b < 2 ^ 24 := single.significand_lt b
  have hsigPos : 0 < single.significand b := significand_pos hb
  have hlog : Nat.log2 (single.significand b) < 24 :=
    (Nat.log2_lt (Nat.ne_of_gt hsigPos)).mpr hsigLt
  obtain ⟨hup, hdown⟩ := normalized (p := double.fraction) hsigPos (by omega)
  rw [magnitude_eq, step_eq, hinfinity]
  generalize single.power b = k at *
  generalize single.significand b = q at *
  generalize Nat.log2 q = l at *
  generalize double.unit - single.unit = u at *
  have hpos : 0 < 2 ^ double.fraction := Nat.two_pow_pos _
  -- moving the significand by `52 - l` places takes as much off the 925 that the units lie apart
  obtain ⟨hpowerW, hsigW⟩ := power_significand_of_eq double (k := k + 873 + l) hup hdown
  refine ⟨(k + 873 + l) * 2 ^ double.fraction + q * 2 ^ (double.fraction - l), by omega, ?_, ?_, ?_⟩
  · have hmul : (k + 873 + l) * 2 ^ double.fraction ≤ 2045 * 2 ^ double.fraction :=
      Nat.mul_le_mul_right _ (by omega)
    omega
  · rw [magnitude_eq, hpowerW, hsigW, Nat.mul_assoc, Nat.mul_assoc, ← pow_add, ← pow_add]
    congr 2
    omega
  · rw [step_eq, hpowerW, ← pow_add, ← pow_succ']
    exact Nat.pow_lt_pow_right (by decide) (by omega)

/-- **Widening changes no value.**  What rounds to the widened number in double precision rounds to
the narrow one in single precision. -/
theorem widens_widen {bits : ℕ} (h : bits < 2 * single.signBit) :
    single.Widens (widen bits) bits := by
  have hunit : double.unit = single.unit + (double.unit - single.unit) := by decide
  have hden : 0 < 2 ^ single.unit := Nat.two_pow_pos _
  obtain ⟨negative, b, hb, rfl⟩ := exists_withSign h
  rcases Nat.lt_trichotomy b single.infinity with hlt | rfl | hgt
  · have hdatum := datum_finite hlt negative
    have hwiden : widen (single.withSign negative b) =
        double.withSign negative (double.nearest (single.magnitude b) (2 ^ single.unit)) := by
      rw [widen, hdatum]
      rfl
    rcases Nat.eq_zero_or_pos b with rfl | hpos
    · have hnearest : double.nearest 0 (2 ^ single.unit) = 0 := by
        refine nearest_eq proper_double.fraction_pos hden (by decide) (roundsTo_of_eq hden ?_)
        rw [magnitude_zero, Nat.zero_mul, Nat.zero_mul]
      rw [magnitude_zero, hnearest] at hwiden
      rw [hwiden]
      exact .zero (datum_zero proper_double negative) (datum_zero proper_single negative)
    · obtain ⟨w, hw, hwlt, hmagnitude, hstep⟩ := exists_double hpos hlt
      have hnearest : double.nearest (single.magnitude b) (2 ^ single.unit) = w := by
        refine nearest_eq proper_double.fraction_pos hden hwlt (roundsTo_of_eq hden ?_)
        have hpow : 2 ^ double.unit = 2 ^ single.unit * 2 ^ (double.unit - single.unit) := by
          rw [← pow_add, ← hunit]
        rw [hmagnitude, hpow, Nat.mul_assoc, Nat.mul_comm (2 ^ single.unit)]
      rw [hnearest] at hwiden
      exact .finite hwiden rfl hw hwlt hpos hlt fun num den hd hrounds =>
        hrounds.coarser hd hunit hmagnitude hstep
  · refine .infinite ?_ (datum_infinity negative)
    rw [widen, datum_infinity]
    exact datum_infinity negative
  · have hnan := datum_nan hgt hb negative
    refine .nan ?_ hnan
    rw [widen, hnan]
    exact datum_quietNaN proper_double

end BinaryFormat

/-! ### Reading what was written -/

namespace FloatText

open BinaryFormat

theorem read?_nil (f : BinaryFormat) : read? f [] = none := rfl

/-- The text of a number, read in a format that it was widened from, is an equal number. -/
theorem read?_render {f : BinaryFormat} (hf : f.Proper) {wide bits : ℕ} (h : f.Widens wide bits) :
    ∃ back, back < 2 * f.signBit ∧ read? f (render wide) = some back ∧
      (f.datum back).Equals (f.datum bits) := by
  cases h with
  | nan hwide hbits =>
    have hlt := quietNaN_lt_signBit hf
    refine ⟨f.quietNaN, by omega, ?_, ?_⟩
    · rw [render, hwide]
      rfl
    · rw [datum_quietNaN hf, hbits]
      exact .nan
  | @infinite negative hwide hbits =>
    refine ⟨f.withSign negative f.infinity, withSign_lt infinity_lt_signBit negative, ?_, ?_⟩
    · rw [render, hwide]
      cases negative <;> rfl
    · rw [datum_infinity, hbits]
      exact .infinite negative
  | @zero negative hwide hbits =>
    have hpos : 0 < f.signBit := Nat.two_pow_pos _
    refine ⟨0, by omega, ?_, ?_⟩
    · rw [render, hwide]
      rfl
    · have hzero : f.datum 0 = .finite false 0 := datum_zero hf false
      rw [hzero, hbits]
      exact .zero false negative
  | @finite negative w b hwide hbits hw hwlt hb hblt hrounds =>
    have hmagnitude : double.magnitude w ≠ 0 :=
      Nat.ne_of_gt (Nat.lt_of_lt_of_le (Nat.two_pow_pos _) (step_le_magnitude (f := double) hw))
    refine ⟨bits, ?_, ?_, .refl _⟩
    · rw [hbits]
      exact withSign_lt (hblt.trans infinity_lt_signBit) negative
    · rw [render, hwide, datum_finite hwlt, absolute_withSign (hwlt.trans infinity_lt_signBit)]
      dsimp only
      rw [if_neg hmagnitude, read?_renderMagnitude hf hw hb hblt hrounds negative, hbits]

end FloatText

/-! ### Paths -/

namespace Template

variable {t : Template}

open BinaryFormat

open Load (Cell)

/-- A floating-point number comes out of a path as it is read from its text. -/
theorem exists_brings_float (h : t.paramCount = 1) {x : Scalar} {wide bits : ℕ}
    (type : Load.FloatType) (hf : type.format.Proper) (hx : x.value.text = FloatText.render wide)
    (hwidens : type.format.Widens wide bits) :
    ∃ back, back < 2 * type.format.signBit ∧
      t.Brings x (.one (.float type)) (.ok (.float type back)) ∧
      (type.format.datum back).Equals (type.format.datum bits) := by
  obtain ⟨back, hlt, hread, hequals⟩ := FloatText.read?_render hf hwidens
  refine ⟨back, hlt, brings_of_load h ?_ ?_, hequals⟩
  · rw [hx]
    intro hnil
    rw [hnil, FloatText.read?_nil] at hread
    cases hread
  · rw [hx, Cell.load, hread]
    rfl

/-- **Floating-point numbers round-trip.**  A scalar can be supplied for the only parameter of a
template, in order or by name, and every path that is built from a floating-point number matches.
Loaded as the type it had, the number equals what went in, in single precision too, where the path
holds the text of the widened number. -/
theorem load_float_of_build (h : t.paramCount = 1) :
    (∀ x : Scalar, (Supply.inOrder [.scalar x]).given t = [some x.value] ∧
      (Supply.named (.pairs (t.names.zip [.scalar x]))).given t = [some x.value]) ∧
    (∀ bits : UInt64, ∃ back : UInt64,
      t.Brings (.double bits) (.one (.float .f64)) (.ok (.float .f64 back.toNat)) ∧
        (double.datum back.toNat).Equals (double.datum bits.toNat)) ∧
    ∀ bits : UInt32, ∃ back : UInt32,
      t.Brings (.single bits) (.one (.float .f32)) (.ok (.float .f32 back.toNat)) ∧
        (single.datum back.toNat).Equals (single.datum bits.toNat) := by
  have hone : ∀ a : Argument, [a].length = t.paramCount := fun _ => h.symm
  refine ⟨fun x => ⟨Supply.given_inOrder t (hone _), Supply.given_pairs t (hone _)⟩,
    fun bits => ?_, fun bits => ?_⟩
  · obtain ⟨back, hlt, hbrings, hequals⟩ := exists_brings_float (x := .double bits) h .f64
      proper_double rfl (widens_self bits.toNat_lt)
    refine ⟨UInt64.ofNat back, ?_, ?_⟩
    · rwa [UInt64.toNat_ofNat_of_lt' hlt]
    · rwa [UInt64.toNat_ofNat_of_lt' hlt]
  · have hwide : (UInt64.ofNat (widen bits.toNat)).toNat = widen bits.toNat :=
      UInt64.toNat_ofNat_of_lt' (encode_lt proper_double single _)
    have htext : (Scalar.single bits).value.text = FloatText.render (widen bits.toNat) :=
      congrArg FloatText.render hwide
    obtain ⟨back, hlt, hbrings, hequals⟩ := exists_brings_float h .f32 proper_single htext
      (widens_widen bits.toNat_lt)
    refine ⟨UInt32.ofNat back, ?_, ?_⟩
    · rwa [UInt32.toNat_ofNat_of_lt' hlt]
    · rwa [UInt32.toNat_ofNat_of_lt' hlt]

/-- Negative zero comes out as a zero, and the least positive number of single precision as itself. -/
theorem load_float_of_build_userPage :
    userPage.paramCount = 1 ∧
      (∃ back : UInt64, userPage.Brings (.double 0x8000000000000000) (.one (.float .f64))
        (.ok (.float .f64 back.toNat)) ∧ (double.datum back.toNat).Equals (.finite true 0)) ∧
      ∃ back : UInt32, userPage.Brings (.single 1) (.one (.float .f32))
        (.ok (.float .f32 back.toNat)) ∧ (single.datum back.toNat).Equals (.finite false 1) := by
  have h : userPage.paramCount = 1 := by decide
  have hnegative : double.datum (0x8000000000000000 : UInt64).toNat = .finite true 0 := by decide
  have hleast : single.datum (1 : UInt32).toNat = .finite false 1 := by decide
  obtain ⟨-, hdouble, hsingle⟩ := load_float_of_build h
  exact ⟨h, hnegative ▸ hdouble 0x8000000000000000, hleast ▸ hsingle 1⟩

end Template

end RouteTemplate
