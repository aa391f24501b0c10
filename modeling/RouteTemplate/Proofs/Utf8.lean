import Mathlib.Tactic.SplitIfs
import RouteTemplate.Text.Utf8

/-!
# RouteTemplate.Proofs.Utf8 — bytes and the text they spell

`Utf8.decode` is the inverse of `Utf8.bytes`: it gives a text for exactly the bytes of that text
(`decode_eq_ok_iff`).  A character is treated by the number of its bytes, through its code point.
-/

namespace RouteTemplate.Utf8

/-! ### Code points -/

theorem toNat_ofNat {n : Nat} (h : n < 256) : (UInt8.ofNat n).toNat = n := by
  simp [Nat.mod_eq_of_lt h]

theorem toNat_charOfNat {n : Nat} (h : n.isValidChar) : (Char.ofNat n).toNat = n := by
  rw [Char.ofNat, dif_pos h]
  rfl

theorem utf8EncodeChar_ofNat_one {n : Nat} (h : n ≤ 0x7F) :
    String.utf8EncodeChar (Char.ofNat n) = [UInt8.ofNat n] := by
  have hn : (Char.ofNat n).val.toNat = n := toNat_charOfNat (by simp only [Nat.isValidChar]; omega)
  simp only [String.utf8EncodeChar, hn]
  rw [if_pos h]

theorem utf8EncodeChar_ofNat_two {n : Nat} (h₁ : 0x7F < n) (h₂ : n ≤ 0x7FF) :
    String.utf8EncodeChar (Char.ofNat n) =
      [UInt8.ofNat (n / 64 + 0xC0), UInt8.ofNat (n % 64 + 0x80)] := by
  have hn : (Char.ofNat n).val.toNat = n := toNat_charOfNat (by simp only [Nat.isValidChar]; omega)
  simp only [String.utf8EncodeChar, hn]
  rw [if_neg (by omega), if_pos h₂, Nat.mod_eq_of_lt (a := n / 64) (by omega)]

theorem utf8EncodeChar_ofNat_three {n : Nat} (hv : n.isValidChar) (h₁ : 0x7FF < n)
    (h₂ : n ≤ 0xFFFF) :
    String.utf8EncodeChar (Char.ofNat n) =
      [UInt8.ofNat (n / 4096 + 0xE0), UInt8.ofNat (n / 64 % 64 + 0x80),
        UInt8.ofNat (n % 64 + 0x80)] := by
  have hn : (Char.ofNat n).val.toNat = n := toNat_charOfNat hv
  simp only [String.utf8EncodeChar, hn]
  rw [if_neg (by omega), if_neg (by omega), if_pos h₂, Nat.mod_eq_of_lt (a := n / 4096) (by omega)]

theorem utf8EncodeChar_ofNat_four {n : Nat} (hv : n.isValidChar) (h : 0xFFFF < n) :
    String.utf8EncodeChar (Char.ofNat n) =
      [UInt8.ofNat (n / 262144 + 0xF0), UInt8.ofNat (n / 4096 % 64 + 0x80),
        UInt8.ofNat (n / 64 % 64 + 0x80), UInt8.ofNat (n % 64 + 0x80)] := by
  have hn : (Char.ofNat n).val.toNat = n := toNat_charOfNat hv
  simp only [Nat.isValidChar] at hv
  simp only [String.utf8EncodeChar, hn]
  rw [if_neg (by omega), if_neg (by omega), if_neg (by omega),
    Nat.mod_eq_of_lt (a := n / 262144) (by omega)]

/-! ### Lead bytes -/

theorem isSome_lead?_iff {b : UInt8} :
    (lead? b).isSome = true ↔ 0xC2 ≤ b.toNat ∧ b.toNat ≤ 0xF4 := by
  simp only [lead?]
  split_ifs <;> simp <;> omega

/-- What a lead byte calls for, by the length of its character. -/
theorem lead?_eq_some {b : UInt8} {l : Lead} (h : lead? b = some l) :
    (0xC2 ≤ b.toNat ∧ b.toNat ≤ 0xDF ∧ l.more = 0 ∧ l.bits = b.toNat - 0xC0 ∧
      l.lo = 0x80 ∧ l.hi = 0xBF) ∨
    (0xE0 ≤ b.toNat ∧ b.toNat ≤ 0xEF ∧ l.more = 1 ∧ l.bits = b.toNat - 0xE0 ∧
      (b.toNat = 0xE0 ∧ l.lo = 0xA0 ∨ b.toNat ≠ 0xE0 ∧ l.lo = 0x80) ∧
      (b.toNat = 0xED ∧ l.hi = 0x9F ∨ b.toNat ≠ 0xED ∧ l.hi = 0xBF)) ∨
    (0xF0 ≤ b.toNat ∧ b.toNat ≤ 0xF4 ∧ l.more = 2 ∧ l.bits = b.toNat - 0xF0 ∧
      (b.toNat = 0xF0 ∧ l.lo = 0x90 ∨ b.toNat ≠ 0xF0 ∧ l.lo = 0x80) ∧
      (b.toNat = 0xF4 ∧ l.hi = 0x8F ∨ b.toNat ≠ 0xF4 ∧ l.hi = 0xBF)) := by
  simp only [lead?] at h
  split_ifs at h <;> cases h <;> dsimp only <;> omega

theorem isContinuation_iff {b : UInt8} :
    isContinuation b = true ↔ 0x80 ≤ b.toNat ∧ b.toNat ≤ 0xBF := by
  simp only [isContinuation, Bool.and_eq_true, decide_eq_true_eq]

theorem Lead.admits_iff {l : Lead} {b : UInt8} :
    l.admits b = true ↔ l.lo ≤ b.toNat ∧ b.toNat ≤ l.hi := by
  simp only [Lead.admits, Bool.and_eq_true, decide_eq_true_eq]

/-! ### One character -/

theorem decodeFrom_one {b : UInt8} (hb : b.toNat < 0x80) (pos : Nat) (rest : List UInt8) :
    decodeFrom pos (b :: rest) =
      (decodeFrom (pos + 1) rest).map (Char.ofNat b.toNat :: ·) := by
  rw [decodeFrom, if_pos hb]

theorem decodeFrom_two {b b₁ : UInt8} {l : Lead} (hb : ¬ b.toNat < 0x80) (hl : lead? b = some l)
    (ha : l.admits b₁ = true) (hm : l.more = 0) (pos : Nat) (rest : List UInt8) :
    decodeFrom pos (b :: b₁ :: rest) =
      (decodeFrom (pos + 2) rest).map (Char.ofNat (extend l.bits b₁) :: ·) := by
  rw [decodeFrom, if_neg hb]
  simp [hl, ha, hm]

theorem decodeFrom_three {b b₁ b₂ : UInt8} {l : Lead} (hb : ¬ b.toNat < 0x80)
    (hl : lead? b = some l) (ha : l.admits b₁ = true) (hm : l.more = 1)
    (hc : isContinuation b₂ = true) (pos : Nat) (rest : List UInt8) :
    decodeFrom pos (b :: b₁ :: b₂ :: rest) =
      (decodeFrom (pos + 3) rest).map
        (Char.ofNat (extend (extend l.bits b₁) b₂) :: ·) := by
  rw [decodeFrom, if_neg hb]
  simp [hl, ha, hm, hc]

theorem decodeFrom_four {b b₁ b₂ b₃ : UInt8} {l : Lead} (hb : ¬ b.toNat < 0x80)
    (hl : lead? b = some l) (ha : l.admits b₁ = true) (hm : l.more = 2)
    (hc : isContinuation b₂ = true) (hd : isContinuation b₃ = true) (pos : Nat)
    (rest : List UInt8) :
    decodeFrom pos (b :: b₁ :: b₂ :: b₃ :: rest) =
      (decodeFrom (pos + 4) rest).map
        (Char.ofNat (extend (extend (extend l.bits b₁) b₂) b₃) :: ·) := by
  rw [decodeFrom, if_neg hb]
  simp [hl, ha, hm, hc, hd]

theorem extend_ofNat {n m : Nat} (h : m < 64) : extend n (UInt8.ofNat (m + 0x80)) = n * 64 + m := by
  rw [extend, toNat_ofNat (by omega)]
  omega

theorem isContinuation_ofNat {m : Nat} (h : m < 64) :
    isContinuation (UInt8.ofNat (m + 0x80)) = true := by
  rw [isContinuation_iff, toNat_ofNat (by omega)]
  omega

/-- The bytes of a character are read as that character. -/
theorem decodeFrom_utf8EncodeChar (pos : Nat) (c : Char) (rest : List UInt8) :
    decodeFrom pos (String.utf8EncodeChar c ++ rest) =
      (decodeFrom (pos + (String.utf8EncodeChar c).length) rest).map (c :: ·) := by
  have hv : c.toNat.isValidChar := c.valid
  rw [← Char.ofNat_toNat c]
  generalize c.toNat = n at hv
  have hn : n < 0xD800 ∨ 0xDFFF < n ∧ n < 0x110000 := hv
  by_cases h₁ : n ≤ 0x7F
  · have hb : (UInt8.ofNat n).toNat = n := toNat_ofNat (by omega)
    rw [utf8EncodeChar_ofNat_one h₁, List.singleton_append, decodeFrom_one (by omega), hb]
    rfl
  by_cases h₂ : n ≤ 0x7FF
  · have hb : (UInt8.ofNat (n / 64 + 0xC0)).toNat = n / 64 + 0xC0 := toNat_ofNat (by omega)
    have hb₁ : (UInt8.ofNat (n % 64 + 0x80)).toNat = n % 64 + 0x80 := toNat_ofNat (by omega)
    obtain ⟨l, hl⟩ := Option.isSome_iff_exists.mp (isSome_lead?_iff.mpr (by rw [hb]; omega))
    have hr := lead?_eq_some hl
    rw [hb] at hr
    have he : l.bits * 64 + n % 64 = n := by omega
    rw [utf8EncodeChar_ofNat_two (by omega) h₂, List.cons_append, List.singleton_append,
      decodeFrom_two (by omega) hl (Lead.admits_iff.mpr (by omega)) (by omega),
      extend_ofNat (by omega), he]
    rfl
  by_cases h₃ : n ≤ 0xFFFF
  · have hb : (UInt8.ofNat (n / 4096 + 0xE0)).toNat = n / 4096 + 0xE0 := toNat_ofNat (by omega)
    have hb₁ : (UInt8.ofNat (n / 64 % 64 + 0x80)).toNat = n / 64 % 64 + 0x80 :=
      toNat_ofNat (by omega)
    obtain ⟨l, hl⟩ := Option.isSome_iff_exists.mp (isSome_lead?_iff.mpr (by rw [hb]; omega))
    have hr := lead?_eq_some hl
    rw [hb] at hr
    have he : (l.bits * 64 + n / 64 % 64) * 64 + n % 64 = n := by omega
    rw [utf8EncodeChar_ofNat_three hv (by omega) h₃, List.cons_append, List.cons_append,
      List.singleton_append,
      decodeFrom_three (by omega) hl (Lead.admits_iff.mpr (by omega)) (by omega)
        (isContinuation_ofNat (by omega)),
      extend_ofNat (by omega), extend_ofNat (by omega), he]
    rfl
  · have hb : (UInt8.ofNat (n / 262144 + 0xF0)).toNat = n / 262144 + 0xF0 := toNat_ofNat (by omega)
    have hb₁ : (UInt8.ofNat (n / 4096 % 64 + 0x80)).toNat = n / 4096 % 64 + 0x80 :=
      toNat_ofNat (by omega)
    obtain ⟨l, hl⟩ := Option.isSome_iff_exists.mp (isSome_lead?_iff.mpr (by rw [hb]; omega))
    have hr := lead?_eq_some hl
    rw [hb] at hr
    have he : ((l.bits * 64 + n / 4096 % 64) * 64 + n / 64 % 64) * 64 + n % 64 = n := by omega
    rw [utf8EncodeChar_ofNat_four hv (by omega), List.cons_append, List.cons_append,
      List.cons_append, List.singleton_append,
      decodeFrom_four (by omega) hl (Lead.admits_iff.mpr (by omega)) (by omega)
        (isContinuation_ofNat (by omega)) (isContinuation_ofNat (by omega)),
      extend_ofNat (by omega), extend_ofNat (by omega), extend_ofNat (by omega), he]
    rfl

/-! ### Characters that were read -/

theorem utf8EncodeChar_of_one {b : UInt8} (hb : b.toNat < 0x80) :
    String.utf8EncodeChar (Char.ofNat b.toNat) = [b] := by
  rw [utf8EncodeChar_ofNat_one (by omega), UInt8.ofNat_toNat]

theorem utf8EncodeChar_of_two {b b₁ : UInt8} {l : Lead} (hl : lead? b = some l)
    (ha : l.admits b₁ = true) (hm : l.more = 0) :
    String.utf8EncodeChar (Char.ofNat (extend l.bits b₁)) = [b, b₁] := by
  have hr := lead?_eq_some hl
  rw [Lead.admits_iff] at ha
  have he : extend l.bits b₁ = l.bits * 64 + b₁.toNat % 64 := rfl
  generalize extend l.bits b₁ = n at he
  have hb : n / 64 + 0xC0 = b.toNat := by omega
  have hb₁ : n % 64 + 0x80 = b₁.toNat := by omega
  rw [utf8EncodeChar_ofNat_two (by omega) (by omega), hb, hb₁, UInt8.ofNat_toNat,
    UInt8.ofNat_toNat]

theorem utf8EncodeChar_of_three {b b₁ b₂ : UInt8} {l : Lead} (hl : lead? b = some l)
    (ha : l.admits b₁ = true) (hm : l.more = 1) (hc : isContinuation b₂ = true) :
    String.utf8EncodeChar (Char.ofNat (extend (extend l.bits b₁) b₂)) = [b, b₁, b₂] := by
  have hr := lead?_eq_some hl
  rw [Lead.admits_iff] at ha
  rw [isContinuation_iff] at hc
  have he : extend (extend l.bits b₁) b₂ = (l.bits * 64 + b₁.toNat % 64) * 64 + b₂.toNat % 64 := rfl
  generalize extend (extend l.bits b₁) b₂ = n at he
  have hb : n / 4096 + 0xE0 = b.toNat := by omega
  have hb₁ : n / 64 % 64 + 0x80 = b₁.toNat := by omega
  have hb₂ : n % 64 + 0x80 = b₂.toNat := by omega
  have hv : n < 0xD800 ∨ 0xDFFF < n ∧ n < 0x110000 := by omega
  rw [utf8EncodeChar_ofNat_three hv (by omega) (by omega), hb, hb₁, hb₂, UInt8.ofNat_toNat,
    UInt8.ofNat_toNat, UInt8.ofNat_toNat]

theorem utf8EncodeChar_of_four {b b₁ b₂ b₃ : UInt8} {l : Lead} (hl : lead? b = some l)
    (ha : l.admits b₁ = true) (hm : l.more = 2) (hc : isContinuation b₂ = true)
    (hd : isContinuation b₃ = true) :
    String.utf8EncodeChar (Char.ofNat (extend (extend (extend l.bits b₁) b₂) b₃)) =
      [b, b₁, b₂, b₃] := by
  have hr := lead?_eq_some hl
  rw [Lead.admits_iff] at ha
  rw [isContinuation_iff] at hc hd
  have he : extend (extend (extend l.bits b₁) b₂) b₃ =
    ((l.bits * 64 + b₁.toNat % 64) * 64 + b₂.toNat % 64) * 64 + b₃.toNat % 64 := rfl
  generalize extend (extend (extend l.bits b₁) b₂) b₃ = n at he
  have hb : n / 262144 + 0xF0 = b.toNat := by omega
  have hb₁ : n / 4096 % 64 + 0x80 = b₁.toNat := by omega
  have hb₂ : n / 64 % 64 + 0x80 = b₂.toNat := by omega
  have hb₃ : n % 64 + 0x80 = b₃.toNat := by omega
  have hv : n < 0xD800 ∨ 0xDFFF < n ∧ n < 0x110000 := by omega
  rw [utf8EncodeChar_ofNat_four hv (by omega), hb, hb₁, hb₂, hb₃, UInt8.ofNat_toNat,
    UInt8.ofNat_toNat, UInt8.ofNat_toNat, UInt8.ofNat_toNat]

/-! ### Texts -/

theorem decodeFrom_bytes (pos : Nat) (cs : List Char) : decodeFrom pos (bytes cs) = .ok cs := by
  induction cs generalizing pos with
  | nil => rw [bytes_nil, decodeFrom]
  | cons c cs ih => rw [bytes_cons, decodeFrom_utf8EncodeChar, ih]; rfl

theorem map_cons_eq_ok {r : Except Fault (List Char)} {c : Char} {cs : List Char}
    (h : r.map (c :: ·) = .ok cs) : ∃ cs', r = .ok cs' ∧ cs = c :: cs' := by
  cases r with
  | error e => simp [Except.map] at h
  | ok cs' => exact ⟨cs', rfl, (Except.ok.inj h).symm⟩

/-- Whatever is read as a text is the bytes of the text. -/
theorem eq_bytes_of_decodeFrom {pos : Nat} {bs : List UInt8} {cs : List Char}
    (h : decodeFrom pos bs = .ok cs) : bs = bytes cs := by
  fun_induction decodeFrom pos bs generalizing cs with
  | case1 =>
    cases h
    rfl
  | case2 pos b r hb ih =>
    obtain ⟨cs', hr, rfl⟩ := map_cons_eq_ok h
    rw [bytes_cons, utf8EncodeChar_of_one hb, ih hr, List.singleton_append]
  | case6 pos b hb l hl b₁ r ha hm ih =>
    obtain ⟨cs', hr, rfl⟩ := map_cons_eq_ok h
    rw [bytes_cons, utf8EncodeChar_of_two hl (by simpa using ha) hm, ih hr]
    rfl
  | case9 pos b hb l hl b₁ ha hm b₂ r hc hm' ih =>
    obtain ⟨cs', hr, rfl⟩ := map_cons_eq_ok h
    rw [bytes_cons, utf8EncodeChar_of_three hl (by simpa using ha) hm' (by simpa using hc), ih hr]
    rfl
  | case12 pos b hb l hl b₁ ha hm b₂ hc hm' b₃ r hd ih =>
    obtain ⟨cs', hr, rfl⟩ := map_cons_eq_ok h
    have hr' := lead?_eq_some hl
    rw [bytes_cons, utf8EncodeChar_of_four hl (by simpa using ha) (by omega) (by simpa using hc)
      (by simpa using hd), ih hr]
    rfl
  | _ => exact absurd h (by simp)

/-- A text is read from its own bytes and from no others. -/
theorem decode_eq_ok_iff {bs : List UInt8} {cs : List Char} :
    decode bs = .ok cs ↔ bs = bytes cs := by
  constructor
  · exact eq_bytes_of_decodeFrom
  · rintro rfl
    exact decodeFrom_bytes 0 cs

end RouteTemplate.Utf8
