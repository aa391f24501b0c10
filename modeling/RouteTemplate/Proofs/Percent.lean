import RouteTemplate.Proofs.Utf8
import RouteTemplate.Text.Percent

/-!
# RouteTemplate.Proofs.Percent — writing and reading values

What `Percent.encode` writes, `Percent.decode` reads back (`decode_encode`).  An encoded value holds
no slash, and only the empty text is written as, or read as, the empty text.
-/

namespace RouteTemplate.Percent

/-! ### Digits and escapes -/

/-- What a sweep finds of the ASCII characters. -/
theorem forall_ascii {P : Char → Prop} (h : ∀ n < 0x80, P (Char.ofNat n)) {c : Char}
    (hc : c.toNat < 0x80) : P c := by
  have hp := h c.toNat hc
  rwa [Char.ofNat_toNat] at hp

theorem hexValue?_hexDigit {n : Nat} (h : n < 16) : hexValue? (hexDigit n) = some n := by
  have hall : ∀ m < 16, hexValue? (hexDigit m) = some m := by decide
  exact hall n h

theorem hexDigit_ne_slash {n : Nat} (h : n < 16) : hexDigit n ≠ '/' := by
  have hall : ∀ m < 16, hexDigit m ≠ '/' := by decide
  exact hall n h

theorem tokens_cons_of_ne {c : Char} (h : c ≠ '%') (rest : List Char) :
    tokens (c :: rest) = .literal c :: tokens rest := by
  rw [tokens]
  rintro high low rest' rfl
  exact absurd rfl h

theorem tokens_escape (b : UInt8) (rest : List Char) :
    tokens (escape b ++ rest) =
      .escape (hexDigit (b.toNat / 16)) (hexDigit (b.toNat % 16)) :: tokens rest := by
  have hb : b.toNat < 256 := b.toNat_lt
  have hh := hexValue?_hexDigit (n := b.toNat / 16) (by omega)
  have hl := hexValue?_hexDigit (n := b.toNat % 16) (by omega)
  simp [escape, tokens, hh, hl]

@[simp] theorem bytes_nil : bytes [] = [] := rfl

theorem bytes_cons_of_ne {c : Char} (h : c ≠ '%') (rest : List Char) :
    bytes (c :: rest) = String.utf8EncodeChar c ++ bytes rest := by
  rw [bytes, tokens_cons_of_ne h]
  rfl

/-- An escape stands for the byte that its digits write. -/
theorem Token.bytes_of_hexValue? {b : UInt8} {high low : Char}
    (hhigh : hexValue? high = some (b.toNat / 16)) (hlow : hexValue? low = some (b.toNat % 16)) :
    (Token.escape high low).bytes = [b] := by
  rw [Token.bytes, hhigh, hlow, Option.getD_some, Option.getD_some, Nat.div_add_mod',
    UInt8.ofNat_toNat]

theorem Token.bytes_escape (b : UInt8) :
    (Token.escape (hexDigit (b.toNat / 16)) (hexDigit (b.toNat % 16))).bytes = [b] := by
  have hb : b.toNat < 256 := b.toNat_lt
  exact bytes_of_hexValue? (hexValue?_hexDigit (by omega)) (hexValue?_hexDigit (by omega))

/-- An escape is read as its byte. -/
theorem bytes_escape_append (b : UInt8) (rest : List Char) :
    bytes (escape b ++ rest) = b :: bytes rest := by
  rw [bytes, tokens_escape, List.flatMap_cons, Token.bytes_escape]
  rfl

theorem bytes_flatMap_escape_append (bs : List UInt8) (rest : List Char) :
    bytes (bs.flatMap escape ++ rest) = bs ++ bytes rest := by
  induction bs with
  | nil => rfl
  | cons b bs ih =>
    rw [List.flatMap_cons, List.append_assoc, bytes_escape_append, ih, List.cons_append]

/-! ### Reading what is written -/

theorem isUnreserved_percent : isUnreserved '%' = false := by decide

theorem isUnreserved_slash : isUnreserved '/' = false := by decide

theorem ne_percent_of_isUnreserved {c : Char} (h : isUnreserved c = true) : c ≠ '%' := by
  rintro rfl
  rw [isUnreserved_percent] at h
  exact absurd h (by decide)

theorem bytes_encodeChar_append (c : Char) (rest : List Char) :
    bytes (encodeChar c ++ rest) = String.utf8EncodeChar c ++ bytes rest := by
  unfold encodeChar
  split
  · rename_i hc
    rw [List.singleton_append, bytes_cons_of_ne (ne_percent_of_isUnreserved hc)]
  · rw [bytes_flatMap_escape_append]

/-- Encoded text stands for the bytes of the text. -/
theorem bytes_encode (cs : List Char) : bytes (encode cs) = Utf8.bytes cs := by
  induction cs with
  | nil => rfl
  | cons c cs ih => rw [encode_cons, bytes_encodeChar_append, ih, Utf8.bytes_cons]

/-- Encoded text is read as the text. -/
theorem decode_encode (cs : List Char) : decode (encode cs) = .ok cs := by
  rw [decode, bytes_encode, Utf8.decode_eq_ok_iff]

theorem encode_injective {s t : List Char} (h : encode s = encode t) : s = t := by
  have hs := decode_encode s
  rw [h, decode_encode] at hs
  exact (Except.ok.inj hs).symm

theorem encodeChar_ne_nil (c : Char) : encodeChar c ≠ [] := by
  intro h
  have hb := bytes_encodeChar_append c []
  rw [h, List.append_nil] at hb
  have hl := congrArg List.length hb
  have hp := c.utf8Size_pos
  simp at hl
  omega

@[simp] theorem encode_eq_nil_iff {cs : List Char} : encode cs = [] ↔ cs = [] := by
  cases cs with
  | nil => simp
  | cons c cs => simp [encodeChar_ne_nil]

theorem slash_notMem_flatMap_escape (bs : List UInt8) : '/' ∉ bs.flatMap escape := by
  intro h
  obtain ⟨b, -, hb⟩ := List.mem_flatMap.mp h
  have hlt : b.toNat < 256 := b.toNat_lt
  simp only [escape, List.mem_cons, List.not_mem_nil, or_false] at hb
  rcases hb with hb | hb | hb
  · exact absurd hb (by decide)
  · exact hexDigit_ne_slash (by omega) hb.symm
  · exact hexDigit_ne_slash (by omega) hb.symm

theorem slash_notMem_encode (cs : List Char) : '/' ∉ encode cs := by
  intro h
  obtain ⟨c, -, hc⟩ := List.mem_flatMap.mp h
  rw [encodeChar] at hc
  by_cases hu : isUnreserved c = true
  · rw [if_pos hu, List.mem_singleton] at hc
    rw [← hc, isUnreserved_slash] at hu
    exact absurd hu (by decide)
  · rw [if_neg hu] at hc
    exact slash_notMem_flatMap_escape _ hc

theorem tokenBytes_ne_nil (t : Token) : t.bytes ≠ [] := by
  cases t with
  | escape high low => simp [Token.bytes]
  | literal c =>
    intro h
    have hl := congrArg List.length h
    have hp := c.utf8Size_pos
    simp [Token.bytes] at hl
    omega

theorem bytes_eq_nil_iff {raw : List Char} : bytes raw = [] ↔ raw = [] := by
  constructor
  · intro h
    have ht : tokens raw = [] := by
      cases htok : tokens raw with
      | nil => rfl
      | cons t ts =>
        rw [bytes, htok, List.flatMap_cons, List.append_eq_nil_iff] at h
        exact absurd h.1 (tokenBytes_ne_nil t)
    rw [← flatMap_text_tokens raw, ht]
    rfl
  · rintro rfl
    rfl

/-- Only the empty text is read as the empty text. -/
theorem eq_nil_of_decode {raw : List Char} (h : decode raw = .ok []) : raw = [] :=
  bytes_eq_nil_iff.mp (Utf8.decode_eq_ok_iff.mp h)

end RouteTemplate.Percent
