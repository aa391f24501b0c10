import RouteTemplate.Proofs.Respelling
import RouteTemplate.Proofs.Utf8Fault

/-!
# RouteTemplate.Proofs.Unescaping — raw text as bytes

Reading raw text as characters, unit by unit, stands for the same bytes as one pass over its own
bytes that turns a percent sign with two digits behind it into a byte and keeps every other byte
(`Percent.bytes_eq_unescape`).  Hence a text is decoded exactly if what this pass gives is its
UTF-8, and a fault describes where that stops being UTF-8 (`Percent.decode_spec`).
-/

namespace RouteTemplate.Percent

/-! ### The pass over bytes -/

/-- The value of a hexadecimal digit in either case, as a byte of text. -/
def hexByte? (b : UInt8) : Option Nat :=
  let n := b.toNat
  if 0x30 ≤ n ∧ n ≤ 0x39 then
    some (n - 0x30)
  else if 0x41 ≤ n ∧ n ≤ 0x46 then
    some (n - 0x37)
  else if 0x61 ≤ n ∧ n ≤ 0x66 then
    some (n - 0x57)
  else
    none

/-- The byte that two hexadecimal digits write. -/
def escaped? (high low : UInt8) : Option UInt8 := do
  let h ← hexByte? high
  let l ← hexByte? low
  return UInt8.ofNat (h * 16 + l)

/-- Bytes with each escape among them turned into its byte, in one pass from left to right. -/
def unescape : List UInt8 → List UInt8
  | b :: high :: low :: rest =>
    match if b = 0x25 then escaped? high low else none with
    | some byte => byte :: unescape rest
    | none => b :: unescape (high :: low :: rest)
  | bs => bs

theorem unescape_cons_of_not_escape {b : UInt8} {rest : List UInt8}
    (h : b = 0x25 → ∀ high low rest', rest = high :: low :: rest' → escaped? high low = none) :
    unescape (b :: rest) = b :: unescape rest := by
  rcases rest with _ | ⟨high, _ | ⟨low, rest⟩⟩
  · rfl
  · rfl
  · have hnone : (if b = 0x25 then escaped? high low else none) = none := by
      split_ifs with hb
      · exact h hb high low rest rfl
      · rfl
    rw [unescape, hnone]

theorem unescape_append {bs : List UInt8} (h : 0x25 ∉ bs) (rest : List UInt8) :
    unescape (bs ++ rest) = bs ++ unescape rest := by
  induction bs with
  | nil => rfl
  | cons b bs ih =>
    rw [List.mem_cons, not_or] at h
    rw [List.cons_append, unescape_cons_of_not_escape fun hb => absurd hb.symm h.1, ih h.2,
      List.cons_append]

/-! ### Digits -/

/-- A character with a byte of ASCII is that byte alone. -/
theorem utf8EncodeChar_of_mem {c : Char} {b : UInt8} (hb : b ∈ String.utf8EncodeChar c)
    (hlt : b.toNat < 0x80) : String.utf8EncodeChar c = [b] ∧ c = Char.ofNat b.toNat := by
  have hchar := Utf8.charBytes_utf8EncodeChar c
  generalize he : String.utf8EncodeChar c = e at hb hchar
  cases hchar with
  | one hb' =>
    obtain rfl := List.mem_singleton.mp hb
    rw [← Utf8.utf8EncodeChar_of_one hlt] at he
    refine ⟨rfl, (Utf8.eq_of_utf8EncodeChar_append_eq (r := []) ?_).1⟩
    rw [List.append_nil, he]
  | two hl ha hm =>
    have hlead := Utf8.lead?_eq_some hl
    rw [Utf8.Lead.admits_iff] at ha
    simp only [List.mem_cons, List.not_mem_nil, or_false] at hb
    rcases hb with rfl | rfl <;> omega
  | three hl ha hm hc =>
    have hlead := Utf8.lead?_eq_some hl
    rw [Utf8.Lead.admits_iff] at ha
    rw [Utf8.isContinuation_iff] at hc
    simp only [List.mem_cons, List.not_mem_nil, or_false] at hb
    rcases hb with rfl | rfl | rfl <;> omega
  | four hl ha hm hc hd =>
    have hlead := Utf8.lead?_eq_some hl
    rw [Utf8.Lead.admits_iff] at ha
    rw [Utf8.isContinuation_iff] at hc hd
    simp only [List.mem_cons, List.not_mem_nil, or_false] at hb
    rcases hb with rfl | rfl | rfl | rfl <;> omega

theorem toNat_lt_of_hexValue? {c : Char} (h : (hexValue? c).isSome = true) : c.toNat < 0x80 := by
  by_contra hge
  rw [hexValue?] at h
  have hle : ∀ d : Char, c ≤ d → d.toNat < 0x80 → False := by
    intro d hcd hd
    have hnat : c.toNat ≤ d.toNat := UInt32.le_iff_toNat_le.mp hcd
    omega
  split_ifs at h with h₁ h₂ h₃
  · exact hle _ h₁.2 (by decide)
  · exact hle _ h₂.2 (by decide)
  · exact hle _ h₃.2 (by decide)
  · cases h

theorem toNat_lt_of_hexByte? {b : UInt8} (h : (hexByte? b).isSome = true) : b.toNat < 0x80 := by
  by_contra hge
  rw [hexByte?] at h
  split_ifs at h <;> first | omega | cases h

/-- A digit has the same value as a character and as a byte. -/
theorem hexByte?_ofNat {c : Char} (hc : c.toNat < 0x80) :
    hexByte? (UInt8.ofNat c.toNat) = hexValue? c := by
  have hall : ∀ n < 0x80,
      hexByte? (UInt8.ofNat (Char.ofNat n).toNat) = hexValue? (Char.ofNat n) := by
    decide +kernel
  exact forall_ascii (P := fun c => hexByte? (UInt8.ofNat c.toNat) = hexValue? c) hall hc

theorem utf8EncodeChar_of_ascii {c : Char} (hc : c.toNat < 0x80) :
    String.utf8EncodeChar c = [UInt8.ofNat c.toNat] := by
  have h := Utf8.utf8EncodeChar_ofNat_one (n := c.toNat) (by omega)
  rwa [Char.ofNat_toNat] at h

/-- Text whose bytes begin with a digit begins with that digit. -/
theorem exists_hexValue?_of_hexByte? {text : List Char} {b : UInt8} {rest : List UInt8}
    (h : Utf8.bytes text = b :: rest) (hb : (hexByte? b).isSome = true) :
    ∃ c text', text = c :: text' ∧ (hexValue? c).isSome = true ∧ Utf8.bytes text' = rest := by
  have hlt := toNat_lt_of_hexByte? hb
  cases text with
  | nil => cases h
  | cons c text =>
    rw [Utf8.bytes_cons] at h
    obtain ⟨x, e, he⟩ := List.exists_cons_of_ne_nil (Utf8.utf8EncodeChar_ne_nil c)
    rw [he] at h
    obtain ⟨rfl, hrest⟩ := List.cons.inj h
    have hmem : x ∈ String.utf8EncodeChar c := he ▸ List.mem_cons_self
    obtain ⟨hsingle, hchar⟩ := utf8EncodeChar_of_mem hmem hlt
    rw [hsingle] at he
    cases he
    have hto : c.toNat = x.toNat := by
      rw [hchar]
      exact Utf8.toNat_charOfNat (by simp only [Nat.isValidChar]; omega)
    refine ⟨c, text, rfl, ?_, hrest⟩
    rw [← hexByte?_ofNat (by omega), hto, UInt8.ofNat_toNat]
    exact hb

/-! ### Raw text -/

theorem escaped?_eq_none {rest : List Char} (h : ¬ Completes rest) {high low : UInt8}
    {bs : List UInt8} (hbs : Utf8.bytes rest = high :: low :: bs) : escaped? high low = none := by
  by_contra hne
  obtain ⟨hhigh, hlow⟩ : (hexByte? high).isSome = true ∧ (hexByte? low).isSome = true := by
    rw [escaped?] at hne
    cases hh : hexByte? high <;> cases hl : hexByte? low <;> simp [hh, hl] at hne ⊢
  obtain ⟨c, text, rfl, hc, htext⟩ := exists_hexValue?_of_hexByte? hbs hhigh
  obtain ⟨d, text', rfl, hd, -⟩ := exists_hexValue?_of_hexByte? htext hlow
  exact h ⟨c, d, text', rfl, hc, hd⟩

theorem utf8EncodeChar_percent : String.utf8EncodeChar '%' = [0x25] := by decide

/-- Raw text stands for its own bytes with the escapes among them turned into theirs. -/
theorem bytes_eq_unescape (raw : List Char) : bytes raw = unescape (Utf8.bytes raw) := by
  induction raw using token_induction with
  | nil => rfl
  | escape high low rest hhigh hlow ih =>
    have hh := toNat_lt_of_hexValue? hhigh
    have hl := toNat_lt_of_hexValue? hlow
    obtain ⟨n, hn⟩ := Option.isSome_iff_exists.mp hhigh
    obtain ⟨m, hm⟩ := Option.isSome_iff_exists.mp hlow
    rw [bytes_escape_cons hhigh hlow, ih, Utf8.bytes_cons, Utf8.bytes_cons, Utf8.bytes_cons,
      utf8EncodeChar_percent, utf8EncodeChar_of_ascii hh, utf8EncodeChar_of_ascii hl]
    simp [unescape, escaped?, hexByte?_ofNat hh, hexByte?_ofNat hl, hn, hm, Token.bytes]
  | literal c rest hc ih =>
    rw [bytes_literal_cons hc, ih, Utf8.bytes_cons]
    by_cases hpercent : c = '%'
    · subst hpercent
      rw [utf8EncodeChar_percent, List.singleton_append, List.singleton_append,
        unescape_cons_of_not_escape]
      rintro - high low bs hbs
      exact escaped?_eq_none (hc rfl) hbs
    · refine (unescape_append (fun hmem => hpercent ?_) _).symm
      exact (utf8EncodeChar_of_mem hmem (by decide)).2

/-- **Decoding.**  A text is decoded exactly if the pass over the bytes gives the UTF-8 of that text,
and a fault describes where the bytes stop being UTF-8.  Only the empty text has no bytes. -/
theorem decode_spec (raw : List Char) :
    (∀ text, decode raw = .ok text ↔ unescape (Utf8.bytes raw) = Utf8.bytes text) ∧
      (unescape (Utf8.bytes raw) = [] → raw = []) ∧
        ∀ fault, decode raw = .error fault → fault.Describes (unescape (Utf8.bytes raw)) := by
  rw [← bytes_eq_unescape]
  refine ⟨fun text => Utf8.decode_eq_ok_iff, bytes_eq_nil_iff.mp, fun fault h => ?_⟩
  exact Utf8.describes_of_decode h

theorem decode_spec_cutOff :
    decode "a%F0%90%80".toList = .error ⟨1, none⟩ ∧
      (⟨1, none⟩ : Utf8.Fault).Describes (unescape (Utf8.bytes "a%F0%90%80".toList)) := by
  have h : decode "a%F0%90%80".toList = .error ⟨1, none⟩ := by decide +kernel
  exact ⟨h, (decode_spec _).2.2 _ h⟩

/-- The digits of an escape may be of either case, and a percent sign without them stays. -/
example : unescape (Utf8.bytes "%c3%A9%4".toList) = [0xC3, 0xA9, 0x25, 0x34] := by decide

end RouteTemplate.Percent
