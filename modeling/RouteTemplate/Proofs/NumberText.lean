import RouteTemplate.Proofs.FloatLoad
import RouteTemplate.Proofs.ShortestDigits

/-!
# RouteTemplate.Proofs.NumberText — which notation a number is written in

The notation is chosen by comparing bit patterns with those of two powers of ten.  Rounding is
monotone, so this is the same as comparing the shortest decimals, and for these the number of digits
in front of the point tells (`BinaryFormat.nearest_pow_le_iff`).  What is written then are these
digits, either around a point or with an exponent (`ParamValue.text_float`).
-/

namespace RouteTemplate

/-! ### Digits -/

theorem digitChar_ne_zero {n : ℕ} (h : n < 10) (hn : n ≠ 0) : n.digitChar ≠ '0' := by
  have hall : ∀ m < 10, m ≠ 0 → m.digitChar ≠ '0' := by decide
  exact hall n h hn

/-- A number other than zero does not begin with one. -/
theorem head?_toDigits_ne {n : ℕ} (hn : n ≠ 0) : (Nat.toDigits 10 n).head? ≠ some '0' := by
  induction n using Nat.strongRecOn with
  | ind n ih =>
    rw [Nat.toDigits_eq_if (by decide)]
    split_ifs with hlt
    · exact fun h => digitChar_ne_zero hlt hn (Option.some.inj h)
    · rw [List.head?_append_of_ne_nil _ Nat.toDigits_ne_nil]
      exact ih (n / 10) (by omega) (by omega)

/-- A number that ten does not divide does not end with a zero. -/
theorem getLast?_toDigits_ne {n : ℕ} (hn : n % 10 ≠ 0) :
    (Nat.toDigits 10 n).getLast? ≠ some '0' := by
  have hmod : n % 10 < 10 := Nat.mod_lt n (by decide)
  rw [Nat.toDigits_eq_if (by decide)]
  split_ifs with hlt
  · rw [Nat.mod_eq_of_lt hlt] at hn
    exact fun h => digitChar_ne_zero hlt hn (Option.some.inj h)
  · rw [List.getLast?_concat]
    exact fun h => digitChar_ne_zero hmod hn (Option.some.inj h)

namespace Decimal

/-! ### Notations -/

/-- Digits without exponent, `point` of them in front of the decimal point: with zeros behind them,
around the point, or behind it and zeros. -/
inductive PlainText (ds : List Char) (point : ℤ) : List Char → Prop
  | whole {zeros : ℕ} (hpoint : point = ds.length + zeros) :
    PlainText ds point (ds ++ List.replicate zeros '0')
  | mixed {front back : List Char} (hds : ds = front ++ back) (hfront : front ≠ [])
    (hback : back ≠ []) (hpoint : point = front.length) :
    PlainText ds point (front ++ '.' :: back)
  | fraction {zeros : ℕ} (hpoint : point = -zeros) :
    PlainText ds point ('0' :: '.' :: List.replicate zeros '0' ++ ds)

/-- An exponent with its sign. -/
inductive PowerText : ℤ → List Char → Prop
  | plus (n : ℕ) : PowerText n ('+' :: Nat.toDigits 10 n)
  | minus {n : ℕ} (hn : n ≠ 0) : PowerText (-n) ('-' :: Nat.toDigits 10 n)

/-- Digits with an exponent, the first of them in front of the decimal point. -/
inductive ExponentText (ds : List Char) (point : ℤ) : List Char → Prop
  | single {first : Char} {power : List Char} (hds : ds = [first])
    (hpower : PowerText (point - 1) power) : ExponentText ds point (first :: 'e' :: power)
  | several {first : Char} {rest power : List Char} (hds : ds = first :: rest) (hrest : rest ≠ [])
    (hpower : PowerText (point - 1) power) :
    ExponentText ds point (first :: '.' :: rest ++ 'e' :: power)

theorem plainText_plainDigits {ds : List Char} (hds : ds ≠ []) (point : ℤ) :
    PlainText ds point (plainDigits ds point) := by
  rw [plainDigits]
  split_ifs with hle hlength
  · exact .fraction (by omega)
  · exact .whole (by omega)
  · refine .mixed (List.take_append_drop _ _).symm ?_ ?_ ?_
    · have hpos := List.length_pos_iff.mpr hds
      rw [ne_eq, List.take_eq_nil_iff]
      rintro (h | h)
      · omega
      · exact hds h
    · rw [ne_eq, List.drop_eq_nil_iff]
      exact hlength
    · rw [List.length_take]
      omega

theorem powerText (power : ℤ) :
    PowerText power ((if power < 0 then '-' else '+') :: Nat.toDigits 10 power.natAbs) := by
  split_ifs with h
  · have hpower : power = -(power.natAbs : ℤ) := by omega
    have htext := PowerText.minus (n := power.natAbs) (by omega)
    rwa [← hpower] at htext
  · have hpower : power = (power.natAbs : ℤ) := by omega
    have htext := PowerText.plus power.natAbs
    rwa [← hpower] at htext

theorem exponentText_scientificDigits {ds : List Char} (hds : ds ≠ []) (point : ℤ) :
    ExponentText ds point (scientificDigits ds point) := by
  have hpower := powerText (point - 1)
  obtain ⟨first, rest, rfl⟩ := List.exists_cons_of_ne_nil hds
  rw [scientificDigits]
  cases rest with
  | nil => exact .single rfl hpower
  | cons second rest => exact .several rfl (List.cons_ne_nil _ _) hpower

/-! ### Powers of ten -/

/-- The powers of ten up to a decimal are those with no more digits in front of the point. -/
theorem lt_point_iff {d : Decimal} (hc : d.coefficient ≠ 0) (e : ℤ) :
    e < d.point ↔ (10 : ℚ) ^ e ≤ d.toRat := by
  constructor
  · intro h
    refine le_trans ?_ (pow_le_toRat hc)
    exact zpow_le_zpow_right₀ (by norm_num) (by omega)
  · intro h
    by_contra hle
    have hpow : (10 : ℚ) ^ d.point ≤ 10 ^ e := zpow_le_zpow_right₀ (by norm_num) (by omega)
    exact absurd (h.trans_lt d.toRat_lt_pow) (not_lt.mpr hpow)

end Decimal

namespace BinaryFormat

variable {f : BinaryFormat} {bits : ℕ}

theorem shortest_mod_ten (hfraction : f.fraction ≤ 52) (hbits : 0 < bits) :
    (f.shortest bits).coefficient % 10 ≠ 0 := by
  obtain ⟨n, c, hle, h⟩ := exists_firstHit hfraction hbits
  exact (h.digits_shortest hle hbits).1

/-- **A power of ten as a bound.**  If the pattern of a power of ten has it as its shortest decimal,
the patterns from there on are those whose shortest decimals have more digits in front of the
point. -/
theorem nearest_pow_le_iff (hf : f.Proper) (hfraction : f.fraction ≤ 52) {e : ℤ} {bound : ℕ}
    (hbound : (⟨1, e⟩ : Decimal).nearest f = bound) (hboundPos : 0 < bound)
    (hboundLt : bound < f.infinity) (hshortest : f.shortest bound = ⟨1, e⟩) (hpos : 0 < bits)
    (hlt : bits < f.infinity) : bound ≤ bits ↔ e < (f.shortest bits).point := by
  have hreads := (isShortest_shortest hf hfraction hpos hlt).readsBack
  have hc : (f.shortest bits).coefficient ≠ 0 := by
    have := shortest_mod_ten hfraction hpos
    omega
  have hpow : (⟨1, e⟩ : Decimal).toRat = 10 ^ e := by
    rw [Decimal.toRat, Nat.cast_one, one_mul]
  rw [Decimal.lt_point_iff hc, ← hpow]
  constructor
  · intro h
    rcases Nat.eq_or_lt_of_le h with rfl | h
    · rw [hshortest]
    · by_contra hle
      have hmono : (f.shortest bits).nearest f ≤ (⟨1, e⟩ : Decimal).nearest f :=
        Decimal.nearest_mono hf (by omega) (by omega) (by omega) (by omega)
          (Decimal.toRat_le_iff.mp (not_le.mp hle).le)
      omega
  · intro h
    have hmono : (⟨1, e⟩ : Decimal).nearest f ≤ (f.shortest bits).nearest f :=
      Decimal.nearest_mono hf (by omega) (by omega) (by omega) (by omega)
        (Decimal.toRat_le_iff.mp h)
    omega

theorem datum_eq_finite {negative : Bool} {m : ℕ} (h : f.datum bits = .finite negative m) :
    f.absolute bits < f.infinity ∧ m = f.magnitude (f.absolute bits) := by
  simp only [datum] at h
  split_ifs at h with hnan hinfinity
  obtain ⟨-, hm⟩ := Datum.finite.inj h
  exact ⟨by omega, hm.symm⟩

end BinaryFormat

namespace FloatText

/-! ### Texts -/

/-- The notation of a decimal: without exponent if its first digit stands from the sixth place
behind the point up to the twenty-first place in front of it, else with an exponent. -/
def InNotation (d : Decimal) (text : List Char) : Prop :=
  if -6 < d.point ∧ d.point ≤ 21 then Decimal.PlainText d.digits d.point text
  else Decimal.ExponentText d.digits d.point text

/-- The text of a double-precision pattern. -/
inductive NumberText (bits : ℕ) : List Char → Prop
  | nan (h : BinaryFormat.double.datum bits = .nan) : NumberText bits "NaN".toList
  | infinity (h : BinaryFormat.double.datum bits = .infinite false) :
    NumberText bits "Infinity".toList
  | negativeInfinity (h : BinaryFormat.double.datum bits = .infinite true) :
    NumberText bits "-Infinity".toList
  | zero {negative : Bool} (h : BinaryFormat.double.datum bits = .finite negative 0) :
    NumberText bits ['0']
  | finite {negative : Bool} {m : ℕ} {d : Decimal} {body : List Char}
    (h : BinaryFormat.double.datum bits = .finite negative m) (hm : m ≠ 0)
    (hshortest : BinaryFormat.double.IsShortest (BinaryFormat.double.absolute bits) d)
    (hfirst : d.digits.head? ≠ some '0') (hlast : d.digits.getLast? ≠ some '0')
    (hbody : InNotation d body) : NumberText bits ((if negative then ['-'] else []) ++ body)

variable {bits : ℕ}

theorem nearest_plainFrom : (⟨1, -6⟩ : Decimal).nearest .double = plainFrom := by decide +kernel

theorem shortest_plainFrom : BinaryFormat.double.shortest plainFrom = ⟨1, -6⟩ := by
  decide +kernel

theorem nearest_plainBelow : (⟨1, 21⟩ : Decimal).nearest .double = plainBelow := by
  decide +kernel

theorem shortest_plainBelow : BinaryFormat.double.shortest plainBelow = ⟨1, 21⟩ := by
  decide +kernel

theorem plainFrom_le_iff (hpos : 0 < bits) (hlt : bits < BinaryFormat.double.infinity) :
    plainFrom ≤ bits ↔ -6 < (BinaryFormat.double.shortest bits).point :=
  BinaryFormat.nearest_pow_le_iff BinaryFormat.proper_double (by decide) nearest_plainFrom
    (by decide +kernel) (by decide +kernel) shortest_plainFrom hpos hlt

theorem plainBelow_le_iff (hpos : 0 < bits) (hlt : bits < BinaryFormat.double.infinity) :
    plainBelow ≤ bits ↔ 21 < (BinaryFormat.double.shortest bits).point :=
  BinaryFormat.nearest_pow_le_iff BinaryFormat.proper_double (by decide) nearest_plainBelow
    (by decide +kernel) (by decide +kernel) shortest_plainBelow hpos hlt

theorem inNotation_renderMagnitude (hpos : 0 < bits) (hlt : bits < BinaryFormat.double.infinity) :
    InNotation (BinaryFormat.double.shortest bits) (renderMagnitude bits) := by
  have hfrom := plainFrom_le_iff hpos hlt
  have hbelow := plainBelow_le_iff hpos hlt
  have hdigits : (BinaryFormat.double.shortest bits).digits ≠ [] := Nat.toDigits_ne_nil
  rw [InNotation, renderMagnitude]
  by_cases h : plainFrom ≤ bits ∧ bits < plainBelow
  · rw [if_pos h, if_pos (by omega)]
    exact Decimal.plainText_plainDigits hdigits _
  · rw [if_neg h, if_neg (by omega)]
    exact Decimal.exponentText_scientificDigits hdigits _

theorem render_finite {negative : Bool} {m : ℕ}
    (h : BinaryFormat.double.datum bits = .finite negative m) (hm : m ≠ 0) :
    render bits = (if negative then ['-'] else []) ++
      renderMagnitude (BinaryFormat.double.absolute bits) := by
  simp only [render, h, if_neg hm]
  cases negative <;> simp

theorem numberText_render (bits : ℕ) : NumberText bits (render bits) := by
  cases h : BinaryFormat.double.datum bits with
  | nan =>
    rw [show render bits = "NaN".toList by simp only [render, h]]
    exact .nan h
  | infinite negative =>
    cases negative with
    | false =>
      rw [show render bits = "Infinity".toList by simp only [render, h]; rfl]
      exact .infinity h
    | true =>
      rw [show render bits = "-Infinity".toList by simp only [render, h]; rfl]
      exact .negativeInfinity h
  | finite negative m =>
    by_cases hm : m = 0
    · subst hm
      rw [show render bits = ['0'] by simp only [render, h, if_pos]]
      exact .zero h
    · obtain ⟨hlt, hmagnitude⟩ := BinaryFormat.datum_eq_finite h
      have hpos : 0 < BinaryFormat.double.absolute bits := by
        refine Nat.pos_of_ne_zero fun hzero => hm ?_
        rw [hmagnitude, hzero, BinaryFormat.magnitude_zero]
      have hmod := BinaryFormat.shortest_mod_ten (f := .double) (by decide) hpos
      rw [render_finite h hm]
      exact .finite h hm
        (BinaryFormat.isShortest_shortest BinaryFormat.proper_double (by decide) hpos hlt)
        (head?_toDigits_ne (by omega)) (getLast?_toDigits_ne hmod)
        (inNotation_renderMagnitude hpos hlt)

end FloatText

/-- **Numbers as text.**  A floating-point value is written as its shortest decimal, with an
exponent only if the decimal is very small or very great. -/
theorem ParamValue.text_float (bits : UInt64) :
    FloatText.NumberText bits.toNat (ParamValue.float bits).text :=
  FloatText.numberText_render bits.toNat

/-- The greatest number below `10 ^ 21` is written out, and the power itself is not. -/
example : FloatText.render (FloatText.plainBelow - 1) = "999999999999999900000".toList ∧
    FloatText.render FloatText.plainBelow = "1e+21".toList := by
  decide +kernel

end RouteTemplate
