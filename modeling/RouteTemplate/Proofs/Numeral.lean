import RouteTemplate.Load.Cell
import RouteTemplate.Value

/-!
# RouteTemplate.Proofs.Numeral — whole numbers as text

A whole number is written in decimal digits, with a minus sign if it is negative.  Read as a number
of any type it is itself, provided that the type holds it (`Load.readInt?_intText`).  Every number
of a type has this text, whichever of the two wide types it is held with (`Scalar.text_int`).
-/

namespace RouteTemplate

/-! ### Digits -/

theorem digitValue?_digitChar {d : Nat} (h : d < 10) : digitValue? d.digitChar = some d := by
  have hall : ∀ m < 10, digitValue? m.digitChar = some m := by decide
  exact hall d h

/-- The digits of a number in front of a text are read as the number to count on from. -/
theorem digitsFrom?_toDigits_append (n : Nat) (cs : List Char) :
    digitsFrom? 0 (Nat.toDigits 10 n ++ cs) = digitsFrom? n cs := by
  induction n using Nat.strongRecOn generalizing cs with
  | ind n ih =>
    rw [Nat.toDigits_eq_if (by decide)]
    by_cases hn : n < 10
    · rw [if_pos hn, List.singleton_append, digitsFrom?, digitValue?_digitChar hn,
        Option.bind_some, Nat.zero_mul, Nat.zero_add]
    · have hmod : n % 10 < 10 := Nat.mod_lt n (by decide)
      rw [if_neg hn, List.append_assoc, ih (n / 10) (by omega), List.singleton_append, digitsFrom?,
        digitValue?_digitChar hmod, Option.bind_some, Nat.div_add_mod']

theorem natural?_toDigits (n : Nat) : natural? (Nat.toDigits 10 n) = some n := by
  obtain ⟨c, cs, hcs⟩ := List.exists_cons_of_ne_nil (Nat.toDigits_ne_nil (b := 10) (n := n))
  have h := digitsFrom?_toDigits_append n []
  rw [List.append_nil, hcs] at h
  rw [hcs]
  exact h

/-- No digit is taken for a sign. -/
theorem head_toDigits (n : Nat) :
    ∃ c cs, Nat.toDigits 10 n = c :: cs ∧ c ≠ '-' ∧ c ≠ '+' := by
  obtain ⟨c, cs, hcs⟩ := List.exists_cons_of_ne_nil (Nat.toDigits_ne_nil (b := 10) (n := n))
  have hdigit : c.isDigit = true :=
    Nat.isDigit_of_mem_toDigits (b := 10) (n := n) (by decide) (by decide) (by rw [hcs]; simp)
  refine ⟨c, cs, hcs, ?_, ?_⟩
  · rintro rfl
    exact absurd hdigit (by decide)
  · rintro rfl
    exact absurd hdigit (by decide)

theorem integer?_toDigits (n : Nat) : integer? (Nat.toDigits 10 n) = some (n : Int) := by
  obtain ⟨c, cs, hcs, hminus, hplus⟩ := head_toDigits n
  have hn := natural?_toDigits n
  rw [hcs] at hn ⊢
  unfold integer?
  split
  · rename_i h
    exact absurd (List.cons.inj h).1 hminus
  · rename_i h
    exact absurd (List.cons.inj h).1 hplus
  · rw [hn]
    rfl

theorem unsigned?_toDigits (n : Nat) : unsigned? (Nat.toDigits 10 n) = some n := by
  obtain ⟨c, cs, hcs, -, hplus⟩ := head_toDigits n
  have hn := natural?_toDigits n
  rw [hcs] at hn ⊢
  unfold unsigned?
  split
  · rename_i h
    exact absurd (List.cons.inj h).1 hplus
  · exact hn

/-! ### Whole numbers -/

theorem integer?_intText (n : Int) : integer? (ParamValue.intText n) = some n := by
  rw [ParamValue.intText]
  by_cases hn : n < 0
  · have habs : -(n.natAbs : Int) = n := by omega
    rw [if_pos hn, integer?, natural?_toDigits]
    exact congrArg some habs
  · have habs : (n.natAbs : Int) = n := by omega
    rw [if_neg hn, integer?_toDigits, habs]

/-- A minus sign is not read where the type has none. -/
theorem unsigned?_intText (n : Int) :
    unsigned? (ParamValue.intText n) = if n < 0 then none else some n.natAbs := by
  rw [ParamValue.intText]
  by_cases hn : n < 0
  · rw [if_pos hn, if_pos hn]
    rfl
  · rw [if_neg hn, if_neg hn, unsigned?_toDigits]

theorem IntType.Holds.not_neg {t : IntType} {n : Int} (hs : t.isSigned = false) (h : t.Holds n) :
    ¬ n < 0 := by
  have := (h.unsigned hs).1
  omega

/-- A written number is read as a number of a type when the type holds it. -/
theorem Load.readInt?_intText (t : IntType) (n : Int) :
    Load.readInt? t (ParamValue.intText n) = if t.Holds n then some n else none := by
  rw [Load.readInt?]
  cases hs : t.isSigned with
  | true => simp [integer?_intText, Option.filter]
  | false =>
    by_cases hn : n < 0
    · have hholds : ¬ t.Holds n := fun h => h.not_neg hs hn
      simp [unsigned?_intText, hn, hholds]
    · have habs : (n.natAbs : Int) = n := by omega
      simp [unsigned?_intText, hn, Option.filter, habs]

/-- A number of a type is written as the number that it is. -/
theorem Scalar.text_int (t : IntType) (n : Int) (h : t.Holds n) :
    (Scalar.int t n h).value.text = ParamValue.intText n := by
  rw [Scalar.value]
  cases hs : t.isSigned with
  | true =>
    have hb := h.signed hs
    rw [if_pos rfl, ParamValue.text, Int64.toInt_ofInt_of_le (by omega) (by omega)]
  | false =>
    have hb := h.unsigned hs
    have hlt : n.toNat < UInt64.size := by
      have : UInt64.size = 18446744073709551616 := rfl
      omega
    have hnat : (n.toNat : Int) = n := by omega
    rw [if_neg (by decide), ParamValue.text, UInt64.toNat_ofNat_of_lt' hlt, hnat]

theorem ParamValue.intText_ne_nil (n : Int) : ParamValue.intText n ≠ [] := by
  rw [ParamValue.intText]
  by_cases hn : n < 0
  · rw [if_pos hn]
    exact List.cons_ne_nil _ _
  · rw [if_neg hn]
    exact Nat.toDigits_ne_nil

end RouteTemplate
