import Mathlib.Data.List.TakeDrop
import RouteTemplate.Proofs.Interval
import RouteTemplate.Proofs.Numeral

/-!
# RouteTemplate.Proofs.FloatText — floating-point numbers as text

The shortest digits of a pattern lie in the interval of the numbers that round to it
(`BinaryFormat.holds_shortest`, `BinaryFormat.Holds.roundsTo`).  Both notations are read as the decimal that they write
(`Decimal.ofText?_scientific`, `Decimal.ofText?_plain`).  So the text of a finite number is read as
the pattern that its digits were made for, in every format in which they round to it
(`FloatText.read?_renderMagnitude`).
-/

namespace RouteTemplate

/-! ### The shortest digits -/

namespace Decimal

variable {i : Interval}

theorem Interval.holds_of_onGrid? {grid c : ℕ} (h : i.onGrid? grid = some c) :
    i.holds (c * grid) = true := by
  unfold Interval.onGrid? at h
  dsimp only at h
  split at h
  · rename_i hbelow habove
    split at h
    · cases h
      exact hbelow
    · cases h
      exact habove
  · rename_i hbelow _
    cases h
    exact hbelow
  · rename_i _ habove
    cases h
    exact habove
  · cases h

/-- What is found on the coarsest grid lies in the interval; so does the value itself, which is
taken when no grid has a hit. -/
theorem Interval.holds_coarsest {one length : ℕ}
    (hvalue : i.holds (i.value / one * one) = true) (fuel count : ℕ) :
    i.holds ((i.coarsest one length fuel count).1 *
      (one * 10 ^ (i.coarsest one length fuel count).2)) = true := by
  induction fuel generalizing count with
  | zero => rwa [coarsest, pow_zero, Nat.mul_one]
  | succ fuel ih =>
    rw [coarsest]
    cases h : i.onGrid? (one * Nat.pow 10 (length - count)) with
    | none => exact ih (count + 1)
    | some c => exact holds_of_onGrid? h

/-- Zeros at the end of a coefficient go into the exponent. -/
theorem trimZeros_spec (fuel : ℕ) (d : Decimal) :
    ∃ k : ℕ, (d.trimZeros fuel).exponent = d.exponent + k ∧
      d.coefficient = (d.trimZeros fuel).coefficient * 10 ^ k := by
  induction fuel generalizing d with
  | zero => exact ⟨0, by simp [trimZeros]⟩
  | succ fuel ih =>
    rw [trimZeros]
    split_ifs with h
    · obtain ⟨k, hexp, hcoeff⟩ := ih ⟨d.coefficient / 10, d.exponent + 1⟩
      refine ⟨k + 1, ?_, ?_⟩
      · rw [hexp]
        push_cast
        ring
      · dsimp only at hcoeff
        rw [pow_succ, ← Nat.mul_assoc, ← hcoeff]
        omega
    · exact ⟨0, by simp⟩

end Decimal

namespace BinaryFormat

variable {f : BinaryFormat}

/-- A decimal lies in the interval of a pattern, where both are counted in units of the interval. -/
def Holds (f : BinaryFormat) (bits : ℕ) (d : Decimal) : Prop :=
  ∃ g : ℕ, d.exponent + f.unit = g ∧
    (f.interval bits).holds (d.coefficient * (4 * 10 ^ g)) = true

/-- The shortest digits lie in the interval. -/
theorem holds_shortest {bits : ℕ} (hbits : 0 < bits) : f.Holds bits (f.shortest bits) := by
  let i := f.interval bits
  let length := Decimal.digitCount (i.value / 4)
  let hit := i.coarsest 4 length 17 1
  obtain ⟨k, hexp, hcoeff⟩ := Decimal.trimZeros_spec length ⟨hit.1, (hit.2 : ℤ) - f.unit⟩
  have hshortest : f.shortest bits =
      (Decimal.mk hit.1 ((hit.2 : ℤ) - f.unit)).trimZeros length := rfl
  have hvalue : i.holds (i.value / 4 * 4) = true := by
    rw [interval_value_div, Decimal.Interval.holds_eq_true_iff]
    exact interval_contains_value hbits
  have hhit : i.holds (hit.1 * (4 * 10 ^ hit.2)) = true :=
    Decimal.Interval.holds_coarsest hvalue 17 1
  rw [← hshortest] at hexp hcoeff
  dsimp only at hexp hcoeff
  refine ⟨hit.2 + k, ?_, ?_⟩
  · rw [hexp]
    push_cast
    ring
  · have hmul : (f.shortest bits).coefficient * (4 * 10 ^ (hit.2 + k)) =
        hit.1 * (4 * 10 ^ hit.2) := by
      rw [hcoeff, pow_add]
      ring
    rw [hmul]
    exact hhit

/-- A decimal in the interval of a pattern rounds to the pattern. -/
theorem Holds.roundsTo {bits : ℕ} {d : Decimal} (h : f.Holds bits d) :
    f.RoundsTo bits d.num d.den := by
  obtain ⟨g, hg, hholds⟩ := h
  rw [← contains_iff_roundsTo, Decimal.toRat_scaled hg]
  exact Decimal.Interval.holds_eq_true_iff.mp hholds

/-- A decimal without places behind the point stays in the interval when its exponent is written
out. -/
theorem Holds.whole {bits : ℕ} {d : Decimal} (h : f.Holds bits d) (hexp : 0 ≤ d.exponent) :
    f.Holds bits ⟨d.coefficient * 10 ^ d.exponent.toNat, 0⟩ := by
  obtain ⟨g, hg, hholds⟩ := h
  refine ⟨f.unit, Int.zero_add _, ?_⟩
  have hpow : 10 ^ g = 10 ^ d.exponent.toNat * 10 ^ f.unit := by
    rw [← pow_add]
    congr 1
    omega
  have hsame : d.coefficient * 10 ^ d.exponent.toNat * (4 * 10 ^ f.unit) =
      d.coefficient * (4 * 10 ^ g) := by
    rw [hpow]
    ring
  rw [hsame]
  exact hholds

end BinaryFormat

/-! ### Reading digits -/

theorem isSome_digitValue?_of_mem_toDigits {n : ℕ} {c : Char} (h : c ∈ Nat.toDigits 10 n) :
    (digitValue? c).isSome = true := by
  have hdigit : c.isDigit = true := Nat.isDigit_of_mem_toDigits (by decide) (by decide) h
  rw [Char.isDigit, Bool.and_eq_true, decide_eq_true_iff, decide_eq_true_iff] at hdigit
  have hrange : '0' ≤ c ∧ c ≤ '9' := hdigit
  rw [digitValue?, if_pos hrange]
  rfl

theorem natural?_of_ne_nil {cs : List Char} (h : cs ≠ []) : natural? cs = digitsFrom? 0 cs := by
  cases cs with
  | nil => exact absurd rfl h
  | cons c cs => rfl

theorem digitsFrom?_zeros_append (k : ℕ) (cs : List Char) :
    digitsFrom? 0 (List.replicate k '0' ++ cs) = digitsFrom? 0 cs := by
  induction k with
  | zero => rfl
  | succ k ih => exact ih

theorem digitsFrom?_zeros (n k : ℕ) :
    digitsFrom? n (List.replicate k '0') = some (n * 10 ^ k) := by
  induction k generalizing n with
  | zero => rw [List.replicate_zero, digitsFrom?, pow_zero, Nat.mul_one]
  | succ k ih =>
    have hzero : digitValue? '0' = some 0 := rfl
    rw [List.replicate_succ, digitsFrom?, hzero, Option.bind_some, Nat.add_zero, ih, pow_succ]
    congr 1
    ring

namespace Decimal

variable {whole fraction tail : List Char} {c : ℕ} {e : ℤ}

theorem spanDigits_append {ds rest : List Char} (hd : ∀ c ∈ ds, (digitValue? c).isSome = true)
    (hr : ∀ c ∈ rest.head?, digitValue? c = none) : spanDigits (ds ++ rest) = (ds, rest) := by
  rw [spanDigits, List.span_eq_takeWhile_dropWhile, List.takeWhile_append_of_pos hd,
    List.dropWhile_append_of_pos hd]
  cases rest with
  | nil => simp
  | cons c cs =>
    have hc : digitValue? c = none := hr c rfl
    simp [hc]

/-- A number with digits behind a point, and then an exponent. -/
theorem ofText?_point (hw : ∀ c ∈ whole, (digitValue? c).isSome = true) (hne : whole ≠ [])
    (hf : ∀ c ∈ fraction, (digitValue? c).isSome = true)
    (hc : natural? (whole ++ fraction) = some c) (ht : ∀ c ∈ tail.head?, digitValue? c = none)
    (he : exponent? tail = some e) :
    ofText? (whole ++ '.' :: (fraction ++ tail)) = some ⟨c, e - fraction.length⟩ := by
  have hpoint : digitValue? '.' = none := rfl
  have hspan : spanDigits (whole ++ '.' :: (fraction ++ tail)) = (whole, '.' :: (fraction ++ tail)) :=
    spanDigits_append hw (by simp [hpoint])
  rw [ofText?, hspan]
  dsimp only
  rw [spanFraction, spanDigits_append hf ht]
  dsimp only
  rw [hc, he, List.isEmpty_eq_false_iff.mpr hne]
  rfl

/-- A number without a point, and then an exponent. -/
theorem ofText?_whole (hw : ∀ c ∈ whole, (digitValue? c).isSome = true) (hne : whole ≠ [])
    (hc : natural? whole = some c) (ht : ∀ c ∈ tail.head?, digitValue? c = none ∧ c ≠ '.')
    (he : exponent? tail = some e) : ofText? (whole ++ tail) = some ⟨c, e⟩ := by
  have hfraction : spanFraction tail = ([], tail) := by
    unfold spanFraction
    split
    · exact absurd rfl (ht '.' rfl).2
    · rfl
  rw [ofText?, spanDigits_append hw fun c h => (ht c h).1]
  dsimp only
  rw [hfraction]
  dsimp only
  rw [List.append_nil, hc, he, List.isEmpty_eq_false_iff.mpr hne]
  simp

/-! ### The two notations -/

variable (d : Decimal)

theorem isSome_of_mem_digits : ∀ c ∈ d.digits, (digitValue? c).isSome = true :=
  fun _ h => isSome_digitValue?_of_mem_toDigits h

theorem digits_ne_nil : d.digits ≠ [] := Nat.toDigits_ne_nil

theorem natural?_digits : natural? d.digits = some d.coefficient := natural?_toDigits _

theorem exponent?_nil : exponent? [] = some 0 := rfl

/-- The exponent at the end of a number. -/
theorem exponent?_signed (power : ℤ) :
    exponent? ('e' :: (if power < 0 then '-' else '+') :: Nat.toDigits 10 power.natAbs) =
      some power := by
  by_cases h : power < 0
  · rw [if_pos h, exponent?, if_pos (.inl rfl), splitSign]
    dsimp only
    rw [natural?_toDigits]
    have habs : -(power.natAbs : ℤ) = power := by omega
    exact congrArg some habs
  · rw [if_neg h, exponent?, if_pos (.inl rfl), splitSign]
    dsimp only
    rw [natural?_toDigits]
    have habs : (power.natAbs : ℤ) = power := by omega
    exact congrArg some habs

/-- A decimal with exponent is read as itself. -/
theorem ofText?_scientific : ofText? d.scientific = some d := by
  have hdigits := d.isSome_of_mem_digits
  have hne := d.digits_ne_nil
  have hnatural := d.natural?_digits
  have hlength : 0 < d.digits.length := List.length_pos_iff.mpr hne
  have hpower : d.point - 1 = d.digits.length + d.exponent - 1 := rfl
  have htail := exponent?_signed (d.point - 1)
  rw [scientific, scientificDigits]
  by_cases h : d.digits.length ≤ 1
  · rw [if_pos h, List.append_nil, List.take_of_length_le h]
    rw [ofText?_whole hdigits hne hnatural (by simp; decide) htail]
    have hexp : d.point - 1 = d.exponent := by omega
    rw [hexp]
  · have hwhole : d.digits.take 1 ≠ [] := by simp [hne]
    have hall : natural? (d.digits.take 1 ++ d.digits.drop 1) = some d.coefficient := by
      rwa [List.take_append_drop]
    rw [if_neg h, List.append_assoc, List.cons_append]
    rw [ofText?_point (fun c hc => hdigits c (List.mem_of_mem_take hc)) hwhole
      (fun c hc => hdigits c (List.mem_of_mem_drop hc)) hall (by simp; decide) htail]
    have hexp : d.point - 1 - (d.digits.drop 1).length = d.exponent := by
      rw [List.length_drop]
      omega
    rw [hexp]

theorem isSome_of_mem_replicate_zero {k : ℕ} {c : Char} (h : c ∈ List.replicate k '0') :
    (digitValue? c).isSome = true := by
  rw [List.eq_of_mem_replicate h]
  rfl

/-- Zeros, and all digits behind the point. -/
theorem ofText?_plain_of_point_nonpos (h : d.point ≤ 0) : ofText? d.plain = some d := by
  have hread : digitsFrom? 0 d.digits = some d.coefficient :=
    (natural?_of_ne_nil d.digits_ne_nil).symm.trans d.natural?_digits
  have hpoint : d.point = d.digits.length + d.exponent := rfl
  have hzero : (digitValue? '0').isSome = true := rfl
  have hfraction : ∀ c ∈ List.replicate d.point.natAbs '0' ++ d.digits,
      (digitValue? c).isSome = true := by
    intro c hc
    rcases List.mem_append.mp hc with hc | hc
    · exact isSome_of_mem_replicate_zero hc
    · exact d.isSome_of_mem_digits c hc
  have hall : natural? (['0'] ++ (List.replicate d.point.natAbs '0' ++ d.digits)) =
      some d.coefficient := (digitsFrom?_zeros_append _ _).trans hread
  have htext := ofText?_point (List.forall_mem_singleton.mpr hzero) (by simp) hfraction
    hall (by simp) exponent?_nil
  have hexp : (0 : ℤ) - (List.replicate d.point.natAbs '0' ++ d.digits).length = d.exponent := by
    rw [List.length_append, List.length_replicate]
    omega
  rw [List.append_nil, hexp] at htext
  rw [plain, plainDigits, if_pos h]
  exact htext

/-- All digits in front of the point, and zeros. -/
theorem ofText?_plain_of_length_le (hpos : 0 < d.point) (h : d.digits.length ≤ d.point.toNat) :
    ofText? d.plain = some ⟨d.coefficient * 10 ^ d.exponent.toNat, 0⟩ := by
  have hpoint : d.point = d.digits.length + d.exponent := rfl
  have hne := d.digits_ne_nil
  have hwhole : ∀ c ∈ d.digits ++ List.replicate (d.point.toNat - d.digits.length) '0',
      (digitValue? c).isSome = true := by
    intro c hc
    rcases List.mem_append.mp hc with hc | hc
    · exact d.isSome_of_mem_digits c hc
    · exact isSome_of_mem_replicate_zero hc
  have hexp : d.point.toNat - d.digits.length = d.exponent.toNat := by omega
  have hall : natural? (d.digits ++ List.replicate (d.point.toNat - d.digits.length) '0') =
      some (d.coefficient * 10 ^ d.exponent.toNat) := by
    rw [natural?_of_ne_nil (by simp [hne]), digits, digitsFrom?_toDigits_append,
      digitsFrom?_zeros, ← digits, hexp]
  have htext := ofText?_whole hwhole (by simp [hne]) hall (by simp) exponent?_nil
  rw [List.append_nil] at htext
  rw [plain, plainDigits, if_neg (by omega), if_pos h]
  exact htext

/-- The point among the digits. -/
theorem ofText?_plain_of_lt_length (hpos : 0 < d.point) (h : d.point.toNat < d.digits.length) :
    ofText? d.plain = some d := by
  have hpoint : d.point = d.digits.length + d.exponent := rfl
  have hwhole : d.digits.take d.point.toNat ≠ [] := by
    simp [d.digits_ne_nil]
    omega
  have hall : natural? (d.digits.take d.point.toNat ++ d.digits.drop d.point.toNat) =
      some d.coefficient := by
    rw [List.take_append_drop]
    exact d.natural?_digits
  have htext := ofText?_point
    (fun c hc => d.isSome_of_mem_digits c (List.mem_of_mem_take hc)) hwhole
    (fun c hc => d.isSome_of_mem_digits c (List.mem_of_mem_drop hc)) hall (by simp) exponent?_nil
  have hexp : (0 : ℤ) - (d.digits.drop d.point.toNat).length = d.exponent := by
    rw [List.length_drop]
    omega
  rw [List.append_nil, hexp] at htext
  rw [plain, plainDigits, if_neg (by omega), if_neg (by omega)]
  exact htext

/-- A decimal without exponent is read as itself, or with its exponent written out. -/
theorem ofText?_plain :
    ofText? d.plain = some d ∨
      0 ≤ d.exponent ∧ ofText? d.plain = some ⟨d.coefficient * 10 ^ d.exponent.toNat, 0⟩ := by
  rcases lt_or_ge 0 d.point with hpos | hle
  · rcases Nat.lt_or_ge d.point.toNat d.digits.length with hlt | hge
    · exact .inl (d.ofText?_plain_of_lt_length hpos hlt)
    · have hpoint : d.point = d.digits.length + d.exponent := rfl
      exact .inr ⟨by omega, d.ofText?_plain_of_length_le hpos hge⟩
  · exact .inl (d.ofText?_plain_of_point_nonpos hle)

/-- No number without sign begins with one. -/
theorem splitSign_of_ofText? {cs : List Char} {d : Decimal} (h : ofText? cs = some d) :
    splitSign cs = (false, cs) := by
  unfold splitSign
  split
  · simp [ofText?, spanDigits, spanFraction, digitValue?] at h
  · simp [ofText?, spanDigits, spanFraction, digitValue?] at h
  · rfl

end Decimal

namespace FloatText

/-- A decimal is read as its nearest pattern, and a minus sign in front of it sets the sign. -/
theorem read?_of_ofText? (f : BinaryFormat) {cs : List Char} {d : Decimal}
    (h : Decimal.ofText? cs = some d) (negative : Bool) :
    read? f (if negative then '-' :: cs else cs) = some (f.withSign negative (d.nearest f)) := by
  cases negative with
  | false =>
    rw [if_neg (by decide), read?, Decimal.splitSign_of_ofText? h]
    dsimp only
    rw [h]
    rfl
  | true =>
    rw [if_pos rfl, read?, Decimal.splitSign]
    dsimp only
    rw [h]
    rfl

/-- The text of a magnitude writes a decimal in its interval. -/
theorem exists_ofText?_renderMagnitude {bits : ℕ} (hbits : 0 < bits) :
    ∃ d, Decimal.ofText? (renderMagnitude bits) = some d ∧ BinaryFormat.double.Holds bits d := by
  have hholds := BinaryFormat.holds_shortest (f := .double) hbits
  unfold renderMagnitude
  dsimp only
  split_ifs
  · rcases (BinaryFormat.double.shortest bits).ofText?_plain with h | ⟨hexp, h⟩
    · exact ⟨_, h, hholds⟩
    · exact ⟨_, h, hholds.whole hexp⟩
  · exact ⟨_, Decimal.ofText?_scientific _, hholds⟩

/-- **The text of a magnitude is read back.**  In every format it is read as the pattern to which
all numbers round that round to the magnitude in double precision. -/
theorem read?_renderMagnitude {f : BinaryFormat} (hf : f.Proper) {wide bits : ℕ} (hwide : 0 < wide)
    (hpos : 0 < bits) (hlt : bits < f.infinity)
    (hrounds : ∀ num den, 0 < den → BinaryFormat.double.RoundsTo wide num den →
      f.RoundsTo bits num den) (negative : Bool) :
    read? f (if negative then '-' :: renderMagnitude wide else renderMagnitude wide) =
      some (f.withSign negative bits) := by
  obtain ⟨d, hd, hholds⟩ := exists_ofText?_renderMagnitude hwide
  have hnearest : d.nearest f = bits :=
    Decimal.nearest_eq hf hpos hlt (hrounds _ _ d.den_pos hholds.roundsTo)
  rw [read?_of_ofText? f hd, hnearest]

end FloatText

end RouteTemplate
