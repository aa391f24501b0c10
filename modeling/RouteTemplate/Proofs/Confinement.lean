import RouteTemplate.Proofs.RoundTrip

/-!
# RouteTemplate.Proofs.Confinement — values stay in their segments

Whatever the value of a parameter is, it is written with a small alphabet that has no slash
(`Percent.escaped_encode`), so a path that is built is cut into the segments that it was built from:
each value stands at the place of its parameter, and every literal segment is as it is written.  A
path therefore tells the texts of all values (`Template.build_confined`).
-/

namespace RouteTemplate

/-! ### The alphabet of a written value -/

namespace Percent

/-- The characters that stand for themselves where a value is written. -/
def plainCharacters : List Char :=
  "ABCDEFGHIJKLMNOPQRSTUVWXYZabcdefghijklmnopqrstuvwxyz0123456789-_.!~*'()".toList

/-- The digits of an escape where a value is written. -/
def upperDigits : List Char := "0123456789ABCDEF".toList

/-- Text that is made of plain characters and of complete escapes with upper-case digits. -/
inductive Escaped : List Char → Prop where
  | nil : Escaped []
  | plain {c : Char} {rest : List Char} :
      c ∈ plainCharacters → Escaped rest → Escaped (c :: rest)
  | escape {high low : Char} {rest : List Char} :
      high ∈ upperDigits → low ∈ upperDigits → Escaped rest → Escaped ('%' :: high :: low :: rest)

theorem toNat_lt_of_isAlphanum {c : Char} (h : c.isAlphanum = true) : c.toNat < 0x80 := by
  have hranges : ((decide (65 ≤ c.val ∧ c.val ≤ 90) || (decide (97 ≤ c.val) && decide (c.val ≤ 122)))
      || (decide (48 ≤ c.val) && decide (c.val ≤ 57))) = true := h
  simp only [Bool.or_eq_true, Bool.and_eq_true, decide_eq_true_eq, UInt32.le_iff_toNat_le]
    at hranges
  have hc : ((65 ≤ c.toNat ∧ c.toNat ≤ 90) ∨ 97 ≤ c.toNat ∧ c.toNat ≤ 122) ∨
      48 ≤ c.toNat ∧ c.toNat ≤ 57 := hranges
  omega

theorem toNat_lt_of_isUnreserved {c : Char} (h : isUnreserved c = true) : c.toNat < 0x80 := by
  rw [isUnreserved, Bool.or_eq_true, decide_eq_true_eq] at h
  rcases h with h | h
  · exact toNat_lt_of_isAlphanum h
  · have hall : ∀ d ∈ ['-', '_', '.', '!', '~', '*', '\'', '(', ')'], d.toNat < 0x80 := by simp
    exact hall c h

theorem mem_plainCharacters {c : Char} (h : isUnreserved c = true) : c ∈ plainCharacters := by
  have hall : ∀ n < 0x80, isUnreserved (Char.ofNat n) = true → Char.ofNat n ∈ plainCharacters := by
    decide +kernel
  exact forall_ascii (P := fun c => isUnreserved c = true → c ∈ plainCharacters) hall
    (toNat_lt_of_isUnreserved h) h

theorem hexDigit_mem_upperDigits {n : Nat} (h : n < 16) : hexDigit n ∈ upperDigits := by
  have hall : ∀ m < 16, hexDigit m ∈ upperDigits := by decide
  exact hall n h

theorem Escaped.flatMap_escape_append (bs : List UInt8) {rest : List Char} (h : Escaped rest) :
    Escaped (bs.flatMap Percent.escape ++ rest) := by
  induction bs with
  | nil => exact h
  | cons b bs ih =>
    have hb : b.toNat < 256 := b.toNat_lt
    rw [List.flatMap_cons, List.append_assoc]
    exact .escape (hexDigit_mem_upperDigits (by omega)) (hexDigit_mem_upperDigits (by omega)) ih

/-- A value is written with plain characters and escapes. -/
theorem escaped_encode (cs : List Char) : Escaped (encode cs) := by
  induction cs with
  | nil => exact .nil
  | cons c cs ih =>
    rw [encode_cons, encodeChar]
    by_cases hc : isUnreserved c = true
    · rw [if_pos hc]
      exact .plain (mem_plainCharacters hc) ih
    · rw [if_neg hc]
      exact .flatMap_escape_append _ ih

theorem Escaped.mem {cs : List Char} (h : Escaped cs) {c : Char} (hc : c ∈ cs) :
    c ∈ '%' :: plainCharacters := by
  have hdigits : upperDigits ⊆ '%' :: plainCharacters := by decide
  induction h with
  | nil => exact absurd hc List.not_mem_nil
  | plain hplain _ ih =>
    rcases List.mem_cons.mp hc with rfl | hc
    · exact List.mem_cons_of_mem _ hplain
    · exact ih hc
  | escape hhigh hlow _ ih =>
    simp only [List.mem_cons] at hc
    rcases hc with rfl | rfl | rfl | hc
    · exact List.mem_cons_self
    · exact hdigits hhigh
    · exact hdigits hlow
    · exact ih hc

/-- Nothing in a written value ends a segment or a path, and all of it is ASCII. -/
theorem Escaped.confined {cs : List Char} (h : Escaped cs) {c : Char} (hc : c ∈ cs) :
    c.toNat < 0x80 ∧ c ∉ ['/', '?', '#', ' '] := by
  have hall : ('%' :: plainCharacters).all fun d =>
      decide (d.toNat < 0x80 ∧ d ∉ ['/', '?', '#', ' ']) := by decide
  exact of_decide_eq_true (List.all_eq_true.mp hall c (h.mem hc))

end Percent

/-! ### The segments of a path -/

/-- What stands at the place of a segment when the parameters have the given values: literal text as
it is written, and for a parameter the encoded text of its value. -/
def Segment.Placed (given : List (List Char × ParamValue)) : Segment → List Char → Prop
  | .literal text, piece => piece = text
  | .param name, piece => ∃ v, (name, v) ∈ given ∧ piece = Percent.encode v.text

/-- Every segment has what it is filled with at its place. -/
theorem forall₂_placed_fill {ss : List Segment} {values : List ParamValue}
    (hl : values.length = (paramNames ss).length) {given : List (List Char × ParamValue)}
    (hg : ∀ e ∈ (paramNames ss).zip values, e ∈ given) :
    List.Forall₂ (Segment.Placed given) ss (fill ss (values.map ParamValue.encoded)) := by
  induction ss generalizing values with
  | nil => exact .nil
  | cons s ss ih =>
    cases s with
    | literal text => exact .cons rfl (ih hl hg)
    | param name =>
      obtain ⟨v, values, rfl⟩ := List.exists_cons_of_length_eq_add_one hl
      rw [paramNames_param_cons, List.zip_cons_cons, List.forall_mem_cons] at hg
      have hplaced : Segment.Placed given (.param name) v.encoded := ⟨v, hg.1, rfl⟩
      have hrest : values.length = (paramNames ss).length := Nat.succ.inj hl
      exact .cons hplaced (ih hrest hg.2)

namespace Template

variable (t : Template)

/-- The pieces of a path are what its segments were filled with. -/
theorem forall₂_placed_pathOf {values : List ParamValue} (hl : values.length = t.paramCount) :
    List.Forall₂ (Segment.Placed (t.names.zip values)) t.segments
      (pieces (t.pathOf (values.map ParamValue.text))) := by
  rw [pathOf, pieces_filled t slash_notMem_of_mem_map_encode, ← ParamValue.map_encoded]
  exact forall₂_placed_fill hl fun e he => he

/-- **Values stay in their segments.**  A path that is built has one piece for each segment of its
template: literal text is as it is written, and at the place of a parameter stands the encoded text
of its value.  That is made of plain characters and escapes, which stand for the bytes of the text,
so no value brings in a slash, a question mark, a number sign, a blank or anything beyond ASCII.  Two
ways of supplying the values build the same path exactly when they give all parameters the same
texts, empty texts included. -/
theorem build_confined (s : Supply) {path : List Char} (h : s.build t = .ok path) :
    ∃ values : List ParamValue, s.given t = values.map some ∧
      List.Forall₂ (Segment.Placed (t.names.zip values)) t.segments (pieces path) ∧
      (∀ v ∈ values, Percent.Escaped (Percent.encode v.text) ∧
        Percent.bytes (Percent.encode v.text) = Utf8.bytes v.text ∧
        ∀ c ∈ Percent.encode v.text, c.toNat < 0x80 ∧ c ∉ ['/', '?', '#', ' ']) ∧
      ∀ (s' : Supply) {path' : List Char}, s'.build t = .ok path' →
        ∃ values' : List ParamValue, s'.given t = values'.map some ∧
          (path' = path ↔ values'.map ParamValue.text = values.map ParamValue.text) := by
  obtain ⟨values, hv, rfl⟩ := (Supply.build_eq_pathOf_iff t s).mp h
  have hl := Supply.length_of_given t s hv
  refine ⟨values, hv, t.forall₂_placed_pathOf hl, ?_, ?_⟩
  · intro v _
    have hescaped := Percent.escaped_encode v.text
    exact ⟨hescaped, Percent.bytes_encode v.text, fun c hc => hescaped.confined hc⟩
  · intro s' path' h'
    obtain ⟨values', hv', rfl⟩ := (Supply.build_eq_pathOf_iff t s').mp h'
    have hl' := Supply.length_of_given t s' hv'
    refine ⟨values', hv', ?_, ?_⟩
    · intro heq
      exact t.pathOf_injective (by rw [List.length_map, hl']) (by rw [List.length_map, hl]) heq
    · intro htexts
      rw [htexts]

/-- A slash in a value and an escaped slash in a value do not meet in one path. -/
theorem build_confined_userPage :
    (Supply.named (.pairs [("id".toList, .value (.str "a/b".toList))])).build userPage =
        .ok "/users/a%2Fb".toList ∧
      (Supply.inOrder [.value (.str "a%2Fb".toList)]).build userPage =
        .ok "/users/a%252Fb".toList ∧
      List.Forall₂ (Segment.Placed [("id".toList, .str "a/b".toList)]) userPage.segments
        ["".toList, "users".toList, "a%2Fb".toList] ∧
      Percent.Escaped "a%2Fb".toList ∧ "/users/a%252Fb".toList ≠ "/users/a%2Fb".toList := by
  have h : (Supply.named (.pairs [("id".toList, .value (.str "a/b".toList))])).build userPage =
      .ok "/users/a%2Fb".toList := by decide
  have h' : (Supply.inOrder [.value (.str "a%2Fb".toList)]).build userPage =
      .ok "/users/a%252Fb".toList := by decide
  obtain ⟨values, hv, hplaced, hescaped, hpaths⟩ := userPage.build_confined _ h
  obtain ⟨values', hv', hiff⟩ := hpaths _ h'
  obtain rfl : [.str "a/b".toList] = values :=
    List.map_injective_iff.mpr (fun _ _ => Option.some.inj) hv
  obtain rfl : [.str "a%2Fb".toList] = values' :=
    List.map_injective_iff.mpr (fun _ _ => Option.some.inj) hv'
  refine ⟨h, h', hplaced, (hescaped _ List.mem_cons_self).1, ?_⟩
  intro heq
  exact absurd (hiff.mp heq) (by decide)

end Template

end RouteTemplate
