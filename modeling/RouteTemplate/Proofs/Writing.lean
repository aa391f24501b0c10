import RouteTemplate.Proofs.Confinement
import RouteTemplate.Proofs.Unescaping

/-!
# RouteTemplate.Proofs.Writing — the form in which values are written

A value is written behind what a buffer holds, byte by byte (`Percent.encodeInto`), and this appends
what `Percent.encode` makes of its characters (`Percent.encodeInto_eq`).  A path is built as if all
of its segments were written into one buffer (`Template.build_eq_writeSegments`).

The texts that values are written as can be told from all others: plain characters and escapes with
upper-case digits, no escape that is not needed, and bytes that are UTF-8 (`Percent.Canonical`).
They are the texts that encoding gives back after they were decoded (`Percent.encode_spec`).
-/

namespace RouteTemplate

namespace Percent

/-! ### Byte by byte -/

/-- One byte of a value as it stands in a path. -/
def encodeByte (b : UInt8) : List Char :=
  if isUnreserved (Char.ofNat b.toNat) then [Char.ofNat b.toNat] else escape b

/-- Writes a value behind what a buffer holds, byte by byte. -/
def encodeInto (buffer value : List Char) : List Char :=
  (Utf8.bytes value).foldl (fun written b => written ++ encodeByte b) buffer

theorem toNat_lt_of_isUnreserved_ofNat {b : UInt8}
    (h : isUnreserved (Char.ofNat b.toNat) = true) : b.toNat < 0x80 := by
  have hb : b.toNat < 256 := b.toNat_lt
  have hlt := toNat_lt_of_isUnreserved h
  rwa [Utf8.toNat_charOfNat (by simp only [Nat.isValidChar]; omega)] at hlt

/-- A character is written as its bytes are. -/
theorem encodeChar_eq_flatMap (c : Char) :
    encodeChar c = (String.utf8EncodeChar c).flatMap encodeByte := by
  unfold encodeChar
  by_cases hc : isUnreserved c = true
  · have hlt := toNat_lt_of_isUnreserved hc
    have hb : (UInt8.ofNat c.toNat).toNat = c.toNat := Utf8.toNat_ofNat (by omega)
    rw [if_pos hc, utf8EncodeChar_of_ascii hlt, List.flatMap_singleton, encodeByte, hb,
      Char.ofNat_toNat, if_pos hc]
  · rw [if_neg hc]
    refine List.flatMap_congr fun b hb => ?_
    -- a byte that is written as it is would be the whole of the character
    have hplain : ¬ isUnreserved (Char.ofNat b.toNat) = true := by
      intro h
      obtain ⟨-, rfl⟩ := utf8EncodeChar_of_mem hb (toNat_lt_of_isUnreserved_ofNat h)
      exact hc h
    rw [encodeByte, if_neg hplain]

theorem encode_eq_flatMap (value : List Char) :
    encode value = (Utf8.bytes value).flatMap encodeByte := by
  induction value with
  | nil => rfl
  | cons c value ih =>
    rw [encode_cons, encodeChar_eq_flatMap, ih, Utf8.bytes_cons, List.flatMap_append]

/-- Writing a value into a buffer appends the encoded value. -/
theorem encodeInto_eq (buffer value : List Char) :
    encodeInto buffer value = buffer ++ encode value := by
  unfold encodeInto
  rw [encode_eq_flatMap, List.foldl_append_eq_append, List.flatMap_def]

/-! ### Units of a written value -/

/-- An escape that is not needed: it stands for a plain character. -/
inductive Token.Needless : Token → Prop where
  | escape {high low c : Char} : c ∈ plainCharacters →
      (Token.escape high low).bytes = String.utf8EncodeChar c → Needless (.escape high low)

/-- The unit that a byte is written as. -/
def byteToken (b : UInt8) : Token :=
  if isUnreserved (Char.ofNat b.toNat) then .literal (Char.ofNat b.toNat)
  else .escape (hexDigit (b.toNat / 16)) (hexDigit (b.toNat % 16))

theorem tokens_flatMap_encodeByte (bs : List UInt8) :
    tokens (bs.flatMap encodeByte) = bs.map byteToken := by
  induction bs with
  | nil => rfl
  | cons b bs ih =>
    rw [List.flatMap_cons, List.map_cons, ← ih]
    unfold encodeByte byteToken
    split_ifs with hb
    · exact tokens_cons_of_ne (ne_percent_of_isUnreserved hb) _
    · exact tokens_escape b _

theorem isUnreserved_of_mem {c : Char} (h : c ∈ plainCharacters) : isUnreserved c = true := by
  have hall : plainCharacters.all isUnreserved = true := by decide
  exact List.all_eq_true.mp hall c h

/-- The escape of a byte is needless exactly if the byte is a plain character. -/
theorem needless_escape_iff (b : UInt8) :
    (Token.escape (hexDigit (b.toNat / 16)) (hexDigit (b.toNat % 16))).Needless ↔
      isUnreserved (Char.ofNat b.toNat) = true := by
  constructor
  · intro h
    cases h with
    | @escape _ _ c hc hbytes =>
      have hlt := toNat_lt_of_isUnreserved (isUnreserved_of_mem hc)
      rw [Token.bytes_escape, utf8EncodeChar_of_ascii hlt] at hbytes
      obtain ⟨rfl, -⟩ := List.cons.inj hbytes
      rw [Utf8.toNat_ofNat (by omega), Char.ofNat_toNat]
      exact isUnreserved_of_mem hc
  · intro h
    refine .escape (mem_plainCharacters h) ?_
    rw [Token.bytes_escape, Utf8.utf8EncodeChar_of_one (toNat_lt_of_isUnreserved_ofNat h)]

theorem not_needless_byteToken (b : UInt8) : ¬ (byteToken b).Needless := by
  unfold byteToken
  split_ifs with hb
  · exact nofun
  · exact fun h => hb ((needless_escape_iff b).mp h)

/-- Two upper-case digits are the escape of some byte. -/
theorem exists_eq_escape {high low : Char} (hhigh : high ∈ upperDigits)
    (hlow : low ∈ upperDigits) : ∃ b, ['%', high, low] = escape b := by
  have hdigits : upperDigits = (List.range 16).map hexDigit := by decide
  rw [hdigits, List.mem_map] at hhigh hlow
  obtain ⟨n, hn, rfl⟩ := hhigh
  obtain ⟨m, hm, rfl⟩ := hlow
  rw [List.mem_range] at hn hm
  refine ⟨UInt8.ofNat (n * 16 + m), ?_⟩
  have hdiv : (n * 16 + m) / 16 = n := by omega
  have hmod : (n * 16 + m) % 16 = m := by omega
  rw [escape, Utf8.toNat_ofNat (by omega), hdiv, hmod]

/-! ### The texts that values are written as -/

/-- Text in the form in which values are written. -/
structure Canonical (raw : List Char) : Prop where
  /-- It is made of plain characters and of escapes with upper-case digits. -/
  escaped : Escaped raw
  /-- None of its escapes stands for a plain character. -/
  needed : ∀ token ∈ tokens raw, ¬ token.Needless
  /-- The bytes it stands for are UTF-8. -/
  spells : ∃ value, bytes raw = Utf8.bytes value

theorem canonical_encode (value : List Char) : Canonical (encode value) where
  escaped := escaped_encode value
  needed := by
    intro token htoken
    rw [encode_eq_flatMap, tokens_flatMap_encodeByte] at htoken
    obtain ⟨b, -, rfl⟩ := List.mem_map.mp htoken
    exact not_needless_byteToken b
  spells := ⟨value, bytes_encode value⟩

/-- Without needless escapes, text is written as the bytes that it stands for are. -/
theorem Escaped.eq_flatMap {raw : List Char} (h : Escaped raw)
    (hneeded : ∀ token ∈ tokens raw, ¬ token.Needless) : raw = (bytes raw).flatMap encodeByte := by
  induction h with
  | nil => rfl
  | @plain c rest hc hrest ih =>
    have hu := isUnreserved_of_mem hc
    have hne := ne_percent_of_isUnreserved hu
    rw [tokens_cons_of_ne hne, List.forall_mem_cons] at hneeded
    rw [bytes_cons_of_ne hne, List.flatMap_append, ← encodeChar_eq_flatMap, ← ih hneeded.2,
      encodeChar, if_pos hu, List.singleton_append]
  | @escape high low rest hhigh hlow hrest ih =>
    obtain ⟨b, hb⟩ := exists_eq_escape hhigh hlow
    have hraw : '%' :: high :: low :: rest = Percent.escape b ++ rest := congrArg (· ++ rest) hb
    rw [hraw, tokens_escape, List.forall_mem_cons, needless_escape_iff] at hneeded
    rw [hraw, bytes_escape_append, List.flatMap_cons, ← ih hneeded.2, encodeByte,
      if_neg hneeded.1]

/-- Canonical text is written as the text that it stands for. -/
theorem Canonical.eq_encode {raw value : List Char} (h : Canonical raw)
    (hvalue : bytes raw = Utf8.bytes value) : raw = encode value := by
  rw [encode_eq_flatMap, ← hvalue]
  exact h.escaped.eq_flatMap h.needed

theorem canonical_iff_exists_encode {raw : List Char} :
    Canonical raw ↔ ∃ value, raw = encode value := by
  constructor
  · intro h
    obtain ⟨value, hvalue⟩ := h.spells
    exact ⟨value, h.eq_encode hvalue⟩
  · rintro ⟨value, rfl⟩
    exact canonical_encode value

/-- Canonical text is what encoding gives back after decoding. -/
theorem canonical_iff_decode {raw : List Char} :
    Canonical raw ↔ ∃ value, decode raw = .ok value ∧ encode value = raw := by
  rw [canonical_iff_exists_encode]
  refine exists_congr fun value => ?_
  constructor
  · rintro rfl
    exact ⟨decode_encode value, rfl⟩
  · exact fun h => h.2.symm

instance (raw : List Char) : Decidable (Canonical raw) :=
  decidable_of_iff ((decode raw).toOption.map encode = some raw) <| by
    rw [canonical_iff_decode]
    cases decode raw <;> simp [Except.toOption]

/-- **Writing and reading values.**  An encoded value is decoded to the value.  Written into a buffer
it stands behind what the buffer held, and of two values in a row each is encoded on its own.  The
texts that values are encoded as are those made of plain characters and of escapes with upper-case
digits, none of which stands for a plain character, whose bytes are UTF-8, and these are the texts
that encoding gives back after decoding. -/
theorem encode_spec (s t raw : List Char) :
    decode (encode s) = .ok s ∧
      (∀ buffer, encodeInto buffer s = buffer ++ encode s) ∧
      encode (s ++ t) = encode s ++ encode t ∧
      ((∃ value, raw = encode value) ↔ Canonical raw) ∧
      (Canonical raw ↔ ∃ value, decode raw = .ok value ∧ encode value = raw) := by
  refine ⟨decode_encode s, fun buffer => encodeInto_eq buffer s, encode_append s t, ?_, ?_⟩
  · exact canonical_iff_exists_encode.symm
  · exact canonical_iff_decode

/-- No value is written with lower-case digits, with an escape that is not needed, with a percent
sign that stands for itself, or as bytes that are no text. -/
example : Canonical "caf%C3%A9".toList ∧ ¬ Canonical "caf%c3%A9".toList ∧
    ¬ Canonical "%63af%C3%A9".toList ∧ ¬ Canonical "100%".toList ∧ ¬ Canonical "%C3".toList := by
  decide +kernel

end Percent

/-! ### Paths in one buffer -/

/-- Writes what stands at the place of a segment behind what a buffer holds. -/
def Segment.writeInto (value? : List Char → Option ParamValue) (buffer : List Char) :
    Segment → Except BuildError (List Char)
  | .literal text => .ok (buffer ++ text)
  | .param name =>
    match value? name with
    | none => .error ⟨name⟩
    | some v => .ok (Percent.encodeInto buffer v.text)

/-- Writes segments behind what a buffer holds, with a slash between neighbours. -/
def writeSegments (value? : List Char → Option ParamValue) (buffer : List Char) :
    List Segment → Except BuildError (List Char)
  | [] => .ok buffer
  | [s] => s.writeInto value? buffer
  | s :: s' :: ss =>
    match s.writeInto value? buffer with
    | .error e => .error e
    | .ok written => writeSegments value? (written ++ ['/']) (s' :: ss)

variable (value? : List Char → Option ParamValue)

/-- A segment is written alike behind whatever a buffer holds. -/
theorem Segment.writeInto_eq (buffer : List Char) (s : Segment) :
    s.writeInto value? buffer = (s.writeInto value? []).map (buffer ++ ·) := by
  cases s with
  | literal text => rfl
  | param name =>
    rw [writeInto, writeInto]
    cases value? name with
    | none => rfl
    | some v =>
      show Except.ok (Percent.encodeInto buffer v.text) =
        .ok (buffer ++ Percent.encodeInto [] v.text)
      rw [Percent.encodeInto_eq, Percent.encodeInto_eq [], List.nil_append]

theorem fillByName_cons (s : Segment) (ss : List Segment) :
    fillByName value? (s :: ss) =
      s.writeInto value? [] >>= fun p => (fillByName value? ss).map (p :: ·) := by
  cases s with
  | literal text =>
    rw [fillByName, Segment.writeInto, List.nil_append]
    cases fillByName value? ss <;> rfl
  | param name =>
    rw [fillByName, Segment.writeInto]
    cases value? name with
    | none => rfl
    | some v =>
      have hv : Percent.encodeInto [] v.text = v.encoded := Percent.encodeInto_eq [] v.text
      cases fillByName value? ss with
      | error e => rfl
      | ok ps =>
        show Except.ok (v.encoded :: ps) = .ok (Percent.encodeInto [] v.text :: ps)
        rw [hv]

/-- Segments written into a buffer stand behind what it held, joined by slashes. -/
theorem writeSegments_eq (buffer : List Char) (ss : List Segment) :
    writeSegments value? buffer ss =
      (fillByName value? ss).map fun ps => buffer ++ joinPieces ps := by
  induction ss generalizing buffer with
  | nil =>
    show Except.ok buffer = .ok (buffer ++ [])
    rw [List.append_nil]
  | cons s ss ih =>
    cases ss with
    | nil =>
      rw [writeSegments, fillByName_cons, s.writeInto_eq]
      cases s.writeInto value? [] <;> rfl
    | cons s' ss =>
      rw [writeSegments, fillByName_cons, s.writeInto_eq]
      cases s.writeInto value? [] with
      | error e => rfl
      | ok p =>
        show writeSegments value? (buffer ++ p ++ ['/']) (s' :: ss) =
          ((fillByName value? (s' :: ss)).map (p :: ·)).map fun ps => buffer ++ joinPieces ps
        rw [ih, fillByName_cons]
        cases s'.writeInto value? [] with
        | error e => rfl
        | ok q =>
          cases fillByName value? ss with
          | error e => rfl
          | ok qs =>
            show Except.ok (buffer ++ p ++ ['/'] ++ joinPieces (q :: qs)) =
              .ok (buffer ++ joinPieces (p :: q :: qs))
            rw [joinPieces_cons_cons, List.append_assoc, List.append_assoc]
            rfl

/-- Building a path is writing its segments into one buffer. -/
theorem Template.build_eq_writeSegments (t : Template) (source : Source) :
    t.build source = writeSegments source.value? [] t.segments := by
  rw [writeSegments_eq, build]
  cases fillByName source.value? t.segments <;> rfl

end RouteTemplate
