import RouteTemplate.Proofs.Undecodable

/-!
# RouteTemplate.Proofs.Respelling — other ways to write the same values

A unit of raw text can be written in other ways: a character as the escapes of its bytes, an escape
with digits of the other case.  However many units are respelled at once, the text stands for the
same bytes (`Percent.bytes_of_respelled`).  What might go wrong is that a percent sign which was no
escape becomes one, but a respelled unit begins with a percent sign, so it is never the digit that
was missing (`Percent.not_completes_flatten`).  Hence the outcome of matching does not depend on how
the values are spelled (`Template.tryMatch_of_respelled`).
-/

namespace RouteTemplate

namespace Percent

/-! ### Letter case -/

/-- Texts that differ at most in the case of their letters. -/
def SameButCase (s t : List Char) : Prop := s.map Char.toLower = t.map Char.toLower

instance (s t : List Char) : Decidable (SameButCase s t) :=
  inferInstanceAs (Decidable (s.map Char.toLower = t.map Char.toLower))

theorem toLower_of_not_ascii {c : Char} (h : 0x80 ≤ c.toNat) : c.toLower = c := by
  have hupper : ¬ (c.val ≥ 'A'.val ∧ c.val ≤ 'Z'.val) := by
    rintro ⟨-, hc⟩
    have hz : c.toNat ≤ 90 := UInt32.le_iff_toNat_le.mp hc
    omega
  exact dif_neg hupper

/-- A digit has the same value in either case. -/
theorem hexValue?_toLower (c : Char) : hexValue? c.toLower = hexValue? c := by
  by_cases hc : c.toNat < 0x80
  · have hall : ∀ n < 0x80, hexValue? (Char.ofNat n).toLower = hexValue? (Char.ofNat n) := by
      decide +kernel
    exact forall_ascii (P := fun c => hexValue? c.toLower = hexValue? c) hall hc
  · rw [toLower_of_not_ascii (by omega)]

/-- A percent sign and a slash have no other case. -/
theorem eq_of_toLower_eq {c d : Char} (hd : d = '%' ∨ d = '/') (h : c.toLower = d) : c = d := by
  by_cases hc : c.toNat < 0x80
  · have hall : ∀ n < 0x80, ((Char.ofNat n).toLower = '%' → Char.ofNat n = '%') ∧
        ((Char.ofNat n).toLower = '/' → Char.ofNat n = '/') := by
      decide +kernel
    have hmarks := forall_ascii (P := fun c => (c.toLower = '%' → c = '%') ∧
      (c.toLower = '/' → c = '/')) hall hc
    rcases hd with rfl | rfl
    · exact hmarks.1 h
    · exact hmarks.2 h
  · rwa [toLower_of_not_ascii (by omega)] at h

theorem hexValue?_eq_of_toLower_eq {c d : Char} (h : c.toLower = d.toLower) :
    hexValue? c = hexValue? d := by
  rw [← hexValue?_toLower c, h, hexValue?_toLower]

/-- An escape in another case is an escape with digits of the same values. -/
theorem SameButCase.eq_escape {text rest : List Char} {high low : Char}
    (h : SameButCase text ('%' :: high :: low :: rest)) :
    ∃ high' low' rest', text = '%' :: high' :: low' :: rest' ∧
      hexValue? high' = hexValue? high ∧ hexValue? low' = hexValue? low ∧
        SameButCase rest' rest := by
  unfold SameButCase at h
  rw [List.map_cons, List.map_cons, List.map_cons, List.map_eq_cons_iff] at h
  obtain ⟨percent, text₁, rfl, hpercent, h⟩ := h
  obtain ⟨high', text₂, rfl, hhigh, h⟩ := List.map_eq_cons_iff.mp h
  obtain ⟨low', rest', rfl, hlow, h⟩ := List.map_eq_cons_iff.mp h
  obtain rfl : percent = '%' := eq_of_toLower_eq (Or.inl rfl) hpercent
  exact ⟨high', low', rest', rfl, hexValue?_eq_of_toLower_eq hhigh,
    hexValue?_eq_of_toLower_eq hlow, h⟩

/-! ### Units -/

/-- The ways to write what a unit of raw text stands for. -/
inductive Respelling : Token → List Char → Prop where
  | kept (c : Char) : Respelling (.literal c) [c]
  | escaped {c : Char} {text : List Char} :
      SameButCase text ((String.utf8EncodeChar c).flatMap escape) → Respelling (.literal c) text
  | recased {high low : Char} {text : List Char} :
      SameButCase text ['%', high, low] → Respelling (.escape high low) text

/-- Raw text with any of its units respelled. -/
def Respelled (raw text : List Char) : Prop :=
  ∃ parts, List.Forall₂ Respelling (tokens raw) parts ∧ text = parts.flatten

/-- A text that would complete a percent sign in front of it to an escape. -/
def Completes (cs : List Char) : Prop :=
  ∃ high low rest, cs = high :: low :: rest ∧ (hexValue? high).isSome = true ∧
    (hexValue? low).isSome = true

theorem tokens_escape_cons {high low : Char} (hhigh : (hexValue? high).isSome = true)
    (hlow : (hexValue? low).isSome = true) (rest : List Char) :
    tokens ('%' :: high :: low :: rest) = .escape high low :: tokens rest := by
  rw [tokens, hhigh, hlow]
  rfl

theorem tokens_literal_cons {c : Char} {rest : List Char} (h : c = '%' → ¬ Completes rest) :
    tokens (c :: rest) = .literal c :: tokens rest := by
  by_cases hc : c = '%'
  · subst hc
    have hrest := h rfl
    rcases rest with _ | ⟨high, _ | ⟨low, rest⟩⟩
    · rfl
    · rfl
    · rw [tokens, if_neg]
      rw [Bool.and_eq_true]
      rintro ⟨hhigh, hlow⟩
      exact hrest ⟨high, low, rest, rfl, hhigh, hlow⟩
  · exact tokens_cons_of_ne hc rest

/-- Raw text begins with an escape or with a character that stands for itself. -/
theorem token_induction {P : List Char → Prop} (nil : P [])
    (escape : ∀ high low rest, (hexValue? high).isSome = true → (hexValue? low).isSome = true →
      P rest → P ('%' :: high :: low :: rest))
    (literal : ∀ c rest, (c = '%' → ¬ Completes rest) → P rest → P (c :: rest))
    (raw : List Char) : P raw := by
  fun_induction tokens raw with
  | case1 => exact nil
  | case2 high low rest h ih =>
    rw [Bool.and_eq_true] at h
    exact escape high low rest h.1 h.2 ih
  | case3 high low rest h ih =>
    refine literal _ _ ?_ ih
    rintro - ⟨high', low', rest', heq, hhigh, hlow⟩
    cases heq
    rw [hhigh, hlow] at h
    exact h rfl
  | case4 c rest h ih =>
    refine literal c rest ?_ ih
    rintro rfl ⟨high, low, rest', rfl, -⟩
    exact h high low rest' rfl rfl

/-! ### Bytes -/

theorem bytes_literal_cons {c : Char} {rest : List Char} (h : c = '%' → ¬ Completes rest) :
    bytes (c :: rest) = String.utf8EncodeChar c ++ bytes rest := by
  rw [bytes, tokens_literal_cons h]
  rfl

theorem bytes_escape_cons {high low : Char} (hhigh : (hexValue? high).isSome = true)
    (hlow : (hexValue? low).isSome = true) (rest : List Char) :
    bytes ('%' :: high :: low :: rest) = (Token.escape high low).bytes ++ bytes rest := by
  rw [bytes, tokens_escape_cons hhigh hlow]
  rfl

/-- An escape stands for its byte whatever the case of its digits. -/
theorem bytes_recased {high low : Char} (hhigh : (hexValue? high).isSome = true)
    (hlow : (hexValue? low).isSome = true) {text : List Char}
    (h : SameButCase text ['%', high, low]) (rest : List Char) :
    bytes (text ++ rest) = (Token.escape high low).bytes ++ bytes rest := by
  obtain ⟨high', low', rest', rfl, hh, hl, hrest⟩ := h.eq_escape
  obtain rfl : rest' = [] := List.map_eq_nil_iff.mp hrest
  have hbytes : (Token.escape high' low').bytes = (Token.escape high low).bytes := by
    rw [Token.bytes, Token.bytes, hh, hl]
  rw [← hbytes]
  exact bytes_escape_cons (by rw [hh, hhigh]) (by rw [hl, hlow]) rest

/-- Escapes stand for their bytes whatever the case of their digits. -/
theorem bytes_escaped {bs : List UInt8} {text : List Char}
    (h : SameButCase text (bs.flatMap escape)) (rest : List Char) :
    bytes (text ++ rest) = bs ++ bytes rest := by
  induction bs generalizing text with
  | nil =>
    obtain rfl : text = [] := List.map_eq_nil_iff.mp h
    rfl
  | cons b bs ih =>
    obtain ⟨high', low', rest', rfl, hh, hl, hrest⟩ := h.eq_escape
    have hb : b.toNat < 256 := b.toNat_lt
    rw [hexValue?_hexDigit (by omega)] at hh hl
    have hbyte := Token.bytes_of_hexValue? hh hl
    have hhead := bytes_escape_cons (by rw [hh]; rfl) (by rw [hl]; rfl) (rest' ++ rest)
    rw [hbyte, ih hrest] at hhead
    exact hhead

/-! ### Respelled text -/

/-- A respelled unit begins with a percent sign, unless it is a character that was kept. -/
theorem Respelling.head?_eq {token : Token} {part : List Char} (h : Respelling token part) :
    part.head? = some '%' ∨ part = token.text := by
  cases h with
  | kept c => exact Or.inr rfl
  | recased h =>
    obtain ⟨high', low', rest', rfl, -⟩ := h.eq_escape
    exact Or.inl rfl
  | @escaped c text h =>
    obtain ⟨b, bs, hbs⟩ := List.exists_cons_of_ne_nil (tokenBytes_ne_nil (.literal c))
    rw [show String.utf8EncodeChar c = b :: bs from hbs] at h
    obtain ⟨high', low', rest', rfl, -⟩ := h.eq_escape
    exact Or.inl rfl

theorem head?_flatten_respelled {raw : List Char} {parts : List (List Char)}
    (h : List.Forall₂ Respelling (tokens raw) parts) :
    parts.flatten.head? = some '%' ∨ parts.flatten.head? = raw.head? := by
  rw [← flatMap_text_tokens raw]
  generalize tokens raw = ts at h
  cases h with
  | nil => exact Or.inr rfl
  | @cons token part ts parts hpart _ =>
    rw [List.flatten_cons, List.flatMap_cons]
    rcases hpart.head?_eq with hp | rfl
    · obtain ⟨cs, rfl⟩ := List.head?_eq_some_iff.mp hp
      exact Or.inl rfl
    · cases token with
      | escape high low => exact Or.inl rfl
      | literal c => exact Or.inr rfl

/-- Text that begins with a percent sign completes nothing. -/
theorem not_completes_of_head? {cs : List Char} (h : cs.head? = some '%') : ¬ Completes cs := by
  rintro ⟨high, low, rest, rfl, hhigh, -⟩
  obtain rfl : high = '%' := Option.some.inj h
  exact absurd hhigh (by decide)

/-- No respelling completes a percent sign that the text itself did not complete. -/
theorem not_completes_flatten {raw : List Char} (hraw : ¬ Completes raw)
    {parts : List (List Char)} (h : List.Forall₂ Respelling (tokens raw) parts) :
    ¬ Completes parts.flatten := by
  rcases raw with _ | ⟨c, raw⟩
  · cases h
    exact hraw
  by_cases hc : c = '%'
  · subst hc
    have hhead := head?_flatten_respelled h
    exact not_completes_of_head? (hhead.elim id id)
  rw [tokens_cons_of_ne hc] at h
  obtain ⟨part, parts, hpart, hparts, rfl⟩ := List.forall₂_cons_left_iff.mp h
  rw [List.flatten_cons]
  rcases hpart.head?_eq with hp | rfl
  · obtain ⟨cs, rfl⟩ := List.head?_eq_some_iff.mp hp
    exact not_completes_of_head? rfl
  · -- the character was kept, and what follows it begins as before or with a percent sign
    rintro ⟨high, low, rest, heq, hhigh, hlow⟩
    obtain ⟨rfl, hrest⟩ : c = high ∧ parts.flatten = low :: rest := List.cons.inj heq
    have hhead := head?_flatten_respelled hparts
    rw [hrest] at hhead
    rcases hhead with hhead | hhead
    · obtain rfl : low = '%' := Option.some.inj hhead
      exact absurd hlow (by decide)
    · obtain ⟨raw, rfl⟩ := List.head?_eq_some_iff.mp hhead.symm
      exact hraw ⟨c, low, raw, rfl, hhigh, hlow⟩

/-- Respelled text stands for the same bytes. -/
theorem bytes_of_respelled {raw text : List Char} (h : Respelled raw text) :
    bytes text = bytes raw := by
  obtain ⟨parts, h, rfl⟩ := h
  induction raw using token_induction generalizing parts with
  | nil =>
    cases h
    rfl
  | escape high low rest hhigh hlow ih =>
    rw [tokens_escape_cons hhigh hlow] at h
    obtain ⟨part, parts, hpart, hparts, rfl⟩ := List.forall₂_cons_left_iff.mp h
    cases hpart with
    | recased hcase =>
      rw [List.flatten_cons, bytes_recased hhigh hlow hcase, bytes_escape_cons hhigh hlow,
        ih _ hparts]
  | literal c rest hc ih =>
    rw [tokens_literal_cons hc] at h
    obtain ⟨part, parts, hpart, hparts, rfl⟩ := List.forall₂_cons_left_iff.mp h
    rw [List.flatten_cons, bytes_literal_cons hc, ← ih _ hparts]
    cases hpart with
    | kept =>
      exact bytes_literal_cons fun hpercent => not_completes_flatten (hc hpercent) hparts
    | escaped hcase => exact bytes_escaped hcase _

theorem decode_of_respelled {raw text : List Char} (h : Respelled raw text) :
    decode text = decode raw := by
  rw [decode, bytes_of_respelled h, decode]

theorem respelled_eq_nil_iff {raw text : List Char} (h : Respelled raw text) :
    text = [] ↔ raw = [] := by
  rw [← bytes_eq_nil_iff, bytes_of_respelled h, bytes_eq_nil_iff]

theorem SameButCase.slash_mem {s t : List Char} (h : SameButCase s t) (hs : '/' ∈ s) : '/' ∈ t := by
  have hmem : Char.toLower '/' ∈ s.map Char.toLower := List.mem_map_of_mem hs
  rw [h] at hmem
  obtain ⟨c, hc, hlower⟩ := List.mem_map.mp hmem
  obtain rfl : c = '/' := eq_of_toLower_eq (Or.inr rfl) hlower
  exact hc

/-- Respelling brings in no slash. -/
theorem slash_notMem_of_respelled {raw text : List Char} (h : Respelled raw text)
    (hraw : '/' ∉ raw) : '/' ∉ text := by
  obtain ⟨parts, h, rfl⟩ := h
  rw [← flatMap_text_tokens raw] at hraw
  generalize tokens raw = ts at h hraw
  induction h with
  | nil => exact List.not_mem_nil
  | @cons token part ts parts hpart _ ih =>
    rw [List.flatMap_cons, List.mem_append, not_or] at hraw
    rw [List.flatten_cons, List.mem_append, not_or]
    refine ⟨fun hslash => ?_, ih hraw.2⟩
    cases hpart with
    | kept c => exact hraw.1 hslash
    | escaped hcase => exact slash_notMem_flatMap_escape _ (hcase.slash_mem hslash)
    | recased hcase => exact hraw.1 (hcase.slash_mem hslash)

end Percent

/-! ### Respelled paths -/

/-- What may stand for a piece of a path at the place of a segment: literal text only itself, a raw
value in any spelling. -/
def Segment.Respelled : Segment → List Char → List Char → Prop
  | .literal _, piece, piece' => piece' = piece
  | .param _, piece, piece' => Percent.Respelled piece piece'

/-- A path with the values of the parameters respelled. -/
def Template.Respelled (t : Template) (path path' : List Char) : Prop :=
  ∃ ps, List.Forall₂ (fun e piece' => Segment.Respelled e.1 e.2 piece')
    (t.segments.zip (pieces path)) ps ∧ path' = joinPieces ps

/-- Respelling the pieces of a path is respelling its raw values. -/
theorem exists_fill_of_respelled {ss : List Segment} {raws : List (List Char)}
    (hl : raws.length = (paramNames ss).length) {ps : List (List Char)}
    (h : List.Forall₂ (fun e piece' => Segment.Respelled e.1 e.2 piece') (ss.zip (fill ss raws)) ps) :
    ∃ raws', List.Forall₂ Percent.Respelled raws raws' ∧ ps = fill ss raws' := by
  fun_induction fill ss raws generalizing ps with
  | case1 raws =>
    obtain rfl := List.length_eq_zero_iff.mp hl
    cases h
    exact ⟨[], .nil, rfl⟩
  | case2 text ss raws ih =>
    obtain ⟨piece', ps, rfl, hps, rfl⟩ := List.forall₂_cons_left_iff.mp h
    obtain ⟨raws', hraws, rfl⟩ := ih hl hps
    exact ⟨raws', hraws, rfl⟩
  | case3 name ss ih => cases hl
  | case4 name ss raw raws ih =>
    obtain ⟨raw', ps, hraw, hps, rfl⟩ := List.forall₂_cons_left_iff.mp h
    obtain ⟨raws', hraws, rfl⟩ := ih (Nat.succ.inj hl) hps
    exact ⟨raw' :: raws', .cons hraw hraws, rfl⟩

/-- The first undecodable value stays the first one when the values are respelled. -/
theorem FirstUndecodable.respelled {names raws raws' : List (List Char)} {e : DecodeError}
    (h : FirstUndecodable names raws e) (hr : List.Forall₂ Percent.Respelled raws raws') :
    ∃ raw', FirstUndecodable names raws' ⟨e.name, raw', e.fault⟩ := by
  induction hr generalizing names with
  | nil =>
    obtain ⟨i, -, hi, -⟩ := h
    cases hi
  | @cons raw raw' raws raws' hraw hraws ih =>
    cases names with
    | nil =>
      obtain ⟨i, hi, -⟩ := h
      cases hi
    | cons name names =>
      rcases firstUndecodable_cons_iff.mp h with ⟨hn, rfl, hd⟩ | ⟨hu, hrest⟩
      · refine ⟨raw', firstUndecodable_cons_iff.mpr (Or.inl ⟨hn, rfl, ?_⟩)⟩
        rw [Percent.decode_of_respelled hraw, hd]
      · obtain ⟨raw'', hfirst⟩ := ih hrest
        refine ⟨raw'', firstUndecodable_cons_iff.mpr (Or.inr ⟨?_, hfirst⟩)⟩
        rw [Percent.not_undecodable_iff] at hu ⊢
        rwa [Percent.decode_of_respelled hraw]

theorem forall₂_decode_of_respelled {raws raws' values : List (List Char)}
    (hr : List.Forall₂ Percent.Respelled raws raws')
    (hv : List.Forall₂ (fun raw value => Percent.decode raw = .ok value) raws values) :
    List.Forall₂ (fun raw value => Percent.decode raw = .ok value) raws' values := by
  induction hr generalizing values with
  | nil => exact hv
  | cons hraw _ ih =>
    obtain ⟨value, values, hd, hvs, rfl⟩ := List.forall₂_cons_left_iff.mp hv
    exact .cons ((Percent.decode_of_respelled hraw).trans hd) (ih hvs)

namespace Template

variable (t : Template)

/-- What a respelled path captures is the captures of the path, respelled. -/
theorem captures_of_respelled {path path' : List Char} {raws : List (List Char)}
    (hc : t.captures path = some raws) (h : t.Respelled path path') :
    ∃ raws', t.captures path' = some raws' ∧ List.Forall₂ Percent.Respelled raws raws' := by
  have hl := t.length_of_captures hc
  have hslash := t.slash_notMem_of_captures hc
  have hne := t.ne_nil_of_captures hc
  obtain ⟨ps, hps, rfl⟩ := h
  rw [← t.filled_of_captures hc, t.pieces_filled hslash] at hps
  obtain ⟨raws', hraws, rfl⟩ := exists_fill_of_respelled hl hps
  have hslash' : ∀ raw ∈ raws', '/' ∉ raw :=
    forall_mem_of_forall₂ (P := fun raw => '/' ∉ raw) (Q := fun raw => '/' ∉ raw)
      Percent.slash_notMem_of_respelled hraws hslash
  have hne' : ∀ raw ∈ raws', raw ≠ [] :=
    forall_mem_of_forall₂ (P := fun raw => raw ≠ []) (Q := fun raw => raw ≠ [])
      (fun hr => mt (Percent.respelled_eq_nil_iff hr).mp) hraws hne
  exact ⟨raws', t.captures_filled (hraws.length_eq.symm.trans hl) hslash' hne', hraws⟩

/-- **Matching does not depend on the spelling of the values.**  When a path is accepted and any
units of its raw values are respelled, the path is accepted again, and the outcome is the same: the
same match, or an error for the same parameter with the same fault in its bytes. -/
theorem tryMatch_of_respelled {path path' : List Char} (hm : t.isMatch path = true)
    (h : t.Respelled path path') :
    t.isMatch path' = true ∧
      ((∃ ps : Params, t.tryMatch path = .ok (some ps) ∧ t.tryMatch path' = .ok (some ps)) ∨
        ∃ e e' : DecodeError, t.tryMatch path = .error e ∧ t.tryMatch path' = .error e' ∧
          e'.name = e.name ∧ e'.fault = e.fault) := by
  obtain ⟨raws, hc⟩ := t.isMatch_iff_exists_captures.mp hm
  obtain ⟨raws', hc', hraws⟩ := t.captures_of_respelled hc h
  refine ⟨t.isMatch_iff_exists_captures.mpr ⟨raws', hc'⟩, ?_⟩
  cases htry : t.tryMatch path with
  | error e =>
    obtain ⟨_, hfound, hfirst⟩ := t.tryMatch_eq_error_iff.mp htry
    obtain rfl := Option.some.inj (hc.symm.trans hfound)
    obtain ⟨raw', hfirst'⟩ := hfirst.respelled hraws
    exact Or.inr ⟨e, _, rfl, t.tryMatch_eq_error_iff.mpr ⟨raws', hc', hfirst'⟩, rfl, rfl⟩
  | ok ps? =>
    cases ps? with
    | none =>
      rw [t.tryMatch_eq_none_iff.mp htry] at hc
      cases hc
    | some ps =>
      obtain ⟨_, hfound, hn, hv⟩ := t.tryMatch_eq_some_iff.mp htry
      obtain rfl := Option.some.inj (hc.symm.trans hfound)
      have hv' := forall₂_decode_of_respelled hraws hv
      exact Or.inl ⟨ps, rfl, t.tryMatch_eq_some_iff.mpr ⟨raws', hc', hn, hv'⟩⟩

/-- A percent sign that is no escape stays none when the character behind its digit is escaped. -/
theorem tryMatch_of_respelled_userPage :
    ∃ ps : Params, ps.values = ["%4é/".toList] ∧
      userPage.tryMatch "/users/%4é%2f".toList = .ok (some ps) ∧
      userPage.tryMatch "/users/%4%c3%A9%2F".toList = .ok (some ps) := by
  have hm : userPage.isMatch "/users/%4é%2f".toList = true := by decide +kernel
  have htokens : Percent.tokens "%4é%2f".toList =
      [.literal '%', .literal '4', .literal 'é', .escape '2' 'f'] := by decide
  have hvalue : Percent.Respelled "%4é%2f".toList "%4%c3%A9%2F".toList := by
    refine ⟨["%".toList, "4".toList, "%c3%A9".toList, "%2F".toList], ?_, by decide⟩
    rw [htokens]
    exact .cons (.kept '%') (.cons (.kept '4') (.cons (.escaped (by decide +kernel))
      (.cons (.recased (by decide)) .nil)))
  have h : userPage.Respelled "/users/%4é%2f".toList "/users/%4%c3%A9%2F".toList :=
    ⟨["".toList, "users".toList, "%4%c3%A9%2F".toList],
      .cons rfl (.cons rfl (.cons hvalue .nil)), by decide⟩
  let ps : Params := ⟨[("id".toList, "%4é/".toList)], by decide⟩
  have htry : userPage.tryMatch "/users/%4é%2f".toList = .ok (some ps) := by decide +kernel
  obtain ⟨-, ⟨ps', h₁, h₂⟩ | ⟨e, -, he, -⟩⟩ := userPage.tryMatch_of_respelled hm h
  · exact ⟨ps', by rw [htry] at h₁; cases h₁; rfl, h₁, h₂⟩
  · rw [htry] at he
    cases he

end Template

end RouteTemplate
