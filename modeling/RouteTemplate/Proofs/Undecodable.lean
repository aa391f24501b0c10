import RouteTemplate.Proofs.RoundTrip

/-!
# RouteTemplate.Proofs.Undecodable — values that do not decode

A path that matches may hold raw values whose bytes are not UTF-8.  Then there is no match but an
error, and it is the error of the first such value in the order of the template
(`Template.tryMatch_eq_error_iff`).  This ties the three ways of matching a path to each other
(`Template.match_outcomes`).
-/

namespace RouteTemplate

namespace Percent

/-- The bytes that raw text stands for are not UTF-8. -/
def Undecodable (raw : List Char) : Prop := ∀ text, bytes raw ≠ Utf8.bytes text

theorem not_undecodable_iff {raw : List Char} :
    ¬ Undecodable raw ↔ ∃ text, decode raw = .ok text := by
  unfold Undecodable decode
  simp only [Utf8.decode_eq_ok_iff, not_forall, Decidable.not_not]

theorem undecodable_of_decode {raw : List Char} {fault : Utf8.Fault}
    (h : decode raw = .error fault) : Undecodable raw := by
  by_contra hn
  obtain ⟨text, ht⟩ := not_undecodable_iff.mp hn
  rw [h] at ht
  cases ht

end Percent

/-! ### The first undecodable value -/

/-- A decode error is about the first undecodable one of the raw values and about the name at its
place. -/
def FirstUndecodable (names raws : List (List Char)) (e : DecodeError) : Prop :=
  ∃ i, names[i]? = some e.name ∧ raws[i]? = some e.raw ∧ Percent.decode e.raw = .error e.fault ∧
    ∀ raw ∈ raws.take i, ¬ Percent.Undecodable raw

theorem firstUndecodable_cons_iff {name raw : List Char} {names raws : List (List Char)}
    {e : DecodeError} :
    FirstUndecodable (name :: names) (raw :: raws) e ↔
      (name = e.name ∧ raw = e.raw ∧ Percent.decode e.raw = .error e.fault) ∨
        (¬ Percent.Undecodable raw ∧ FirstUndecodable names raws e) := by
  constructor
  · rintro ⟨i, hn, hr, hd, hfirst⟩
    cases i with
    | zero => exact Or.inl ⟨Option.some.inj hn, Option.some.inj hr, hd⟩
    | succ i =>
      rw [List.take_succ_cons, List.forall_mem_cons] at hfirst
      exact Or.inr ⟨hfirst.1, i, hn, hr, hd, hfirst.2⟩
  · rintro (⟨hn, hr, hd⟩ | ⟨hraw, i, hn, hr, hd, hfirst⟩)
    · exact ⟨0, congrArg some hn, congrArg some hr, hd, fun raw h => absurd h List.not_mem_nil⟩
    · refine ⟨i + 1, hn, hr, hd, ?_⟩
      rw [List.take_succ_cons, List.forall_mem_cons]
      exact ⟨hraw, hfirst⟩

theorem decodeEntries_cons_eq_error_iff {name raw : List Char}
    {rest : List (List Char × List Char)} {e : DecodeError} :
    decodeEntries ((name, raw) :: rest) = .error e ↔
      (name = e.name ∧ raw = e.raw ∧ Percent.decode e.raw = .error e.fault) ∨
        (¬ Percent.Undecodable raw ∧ decodeEntries rest = .error e) := by
  obtain ⟨ename, eraw, efault⟩ := e
  rw [decodeEntries, Percent.not_undecodable_iff]
  cases hd : Percent.decode raw with
  | error fault =>
    constructor
    · intro h
      cases h
      exact Or.inl ⟨rfl, rfl, hd⟩
    · rintro (⟨rfl, rfl, h⟩ | ⟨⟨text, h⟩, -⟩)
      · rw [hd] at h
        cases h
        rfl
      · cases h
  | ok value =>
    -- the error can only come from the rest
    have hhead : ¬ (name = ename ∧ raw = eraw ∧ Percent.decode eraw = .error efault) := by
      rintro ⟨-, rfl, h⟩
      rw [hd] at h
      cases h
    cases decodeEntries rest with
    | error e' => simp [hhead]
    | ok es => simp [hhead]

/-- Decoding stops at the first undecodable value. -/
theorem decodeEntries_zip_eq_error_iff {names raws : List (List Char)} {e : DecodeError}
    (hl : raws.length = names.length) :
    decodeEntries (names.zip raws) = .error e ↔ FirstUndecodable names raws e := by
  induction names generalizing raws with
  | nil =>
    constructor
    · intro h
      cases h
    · rintro ⟨i, hn, -⟩
      cases hn
  | cons name names ih =>
    obtain ⟨raw, raws, rfl⟩ := List.exists_cons_of_length_eq_add_one hl
    rw [List.zip_cons_cons, decodeEntries_cons_eq_error_iff, firstUndecodable_cons_iff,
      ih (Nat.succ.inj hl)]

/-- There is a first undecodable value as soon as there is any. -/
theorem exists_firstUndecodable_iff {names raws : List (List Char)}
    (hl : raws.length = names.length) :
    (∃ e, FirstUndecodable names raws e) ↔ ∃ raw ∈ raws, Percent.Undecodable raw := by
  constructor
  · rintro ⟨e, i, -, hr, hd, -⟩
    exact ⟨e.raw, List.mem_of_getElem? hr, Percent.undecodable_of_decode hd⟩
  · rintro ⟨raw, hraw, hu⟩
    cases hd : decodeEntries (names.zip raws) with
    | error e => exact ⟨e, (decodeEntries_zip_eq_error_iff hl).mp hd⟩
    | ok ds =>
      have hdecode := ((decodeEntries_zip_eq_ok_iff hl).mp hd).2
      have hall := exists_forall₂_iff.mp ⟨_, hdecode⟩
      exact absurd hu (Percent.not_undecodable_iff.mpr (hall raw hraw))

/-! ### Paths -/

namespace Template

variable (t : Template)

theorem decode_eq_error_iff {raws : List (List Char)} {e : DecodeError} :
    t.decode raws = .error e ↔ decodeEntries (t.names.zip raws) = .error e := by
  unfold decode
  split
  · rename_i e' h
    simp [h]
  · rename_i es h
    simp [h]

/-- A path fails to match with an error when it matches but for its first undecodable value. -/
theorem tryMatch_eq_error_iff {path : List Char} {e : DecodeError} :
    t.tryMatch path = .error e ↔
      ∃ raws, t.captures path = some raws ∧ FirstUndecodable t.names raws e := by
  have hdec : t.tryMatch path = .error e ↔
      ∃ raws, t.captures path = some raws ∧ t.decode raws = .error e := by
    unfold tryMatch
    cases t.captures path with
    | none => simp
    | some raws => cases hd : t.decode raws <;> simp [hd]
  rw [hdec]
  refine exists_congr fun raws => and_congr_right fun hc => ?_
  rw [decode_eq_error_iff, decodeEntries_zip_eq_error_iff (t.length_of_captures hc)]

/-- **The outcomes of matching.**  A path that is not accepted is no match and no error, and nothing
else is; a match has the same values with and without error reports.  There is an error exactly when
the path is accepted and the bytes of some raw value are not UTF-8, and it tells the name and the raw
text of the first such value in the order of the template.  Without parameters there is none. -/
theorem match_outcomes (path : List Char) :
    (t.isMatch path = false ↔ t.tryMatch path = .ok none) ∧
      (∀ ps : Params, t.params? path = some ps ↔ t.tryMatch path = .ok (some ps)) ∧
      ((∃ e, t.tryMatch path = .error e) ↔ t.isMatch path = true ∧
        ∃ raw ∈ paramPieces t.rawSegments (pieces path), Percent.Undecodable raw) ∧
      (∀ e : DecodeError, t.tryMatch path = .error e ↔ t.isMatch path = true ∧
        FirstUndecodable t.names (paramPieces t.rawSegments (pieces path)) e) ∧
      ¬ (t.names = [] ∧ ∃ e, t.tryMatch path = .error e) := by
  have herror : ∀ e : DecodeError, t.tryMatch path = .error e ↔ t.isMatch path = true ∧
      FirstUndecodable t.names (paramPieces t.rawSegments (pieces path)) e := by
    intro e
    rw [tryMatch_eq_error_iff, isMatch_eq_true_iff]
    simp only [captures_eq_some_iff, and_assoc, exists_and_left, exists_eq_left]
  refine ⟨?_, fun ps => t.params?_eq_some_iff, ?_, herror, ?_⟩
  · rw [tryMatch_eq_none_iff, captures_eq_none_iff]
  · simp only [herror, exists_and_left]
    refine and_congr_right fun hm => ?_
    have hc := t.captures_eq_some_iff.mpr ⟨t.isMatch_eq_true_iff.mp hm, rfl⟩
    exact exists_firstUndecodable_iff (t.length_of_captures hc)
  · rintro ⟨hn, e, he⟩
    obtain ⟨-, i, hname, -⟩ := (herror e).mp he
    rw [hn, List.getElem?_nil] at hname
    cases hname

/-- The template `/files/:dir/:name/:version`. -/
def fileVersion : Template where
  segments := [.literal [], .literal "files".toList, .param "dir".toList, .param "name".toList,
    .param "version".toList]
  segments_ne_nil := by decide
  wellFormed := by decide
  nodup := by decide

/-- Of two undecodable values behind one that decodes, the first is reported. -/
theorem match_outcomes_fileVersion :
    fileVersion.isMatch "/files/a/%C3%28/%FF".toList = true ∧
      fileVersion.params? "/files/a/%C3%28/%FF".toList = none ∧
      fileVersion.tryMatch "/files/a/%C3%28/%FF".toList =
        .error ⟨"name".toList, "%C3%28".toList, ⟨0, some 1⟩⟩ := by
  obtain ⟨-, hparams, -, herror, -⟩ := fileVersion.match_outcomes "/files/a/%C3%28/%FF".toList
  have hm : fileVersion.isMatch "/files/a/%C3%28/%FF".toList = true := by decide +kernel
  have hpieces : paramPieces fileVersion.rawSegments (pieces "/files/a/%C3%28/%FF".toList) =
      ["a".toList, "%C3%28".toList, "%FF".toList] := by decide
  have hfirst : FirstUndecodable fileVersion.names
      ["a".toList, "%C3%28".toList, "%FF".toList]
      ⟨"name".toList, "%C3%28".toList, ⟨0, some 1⟩⟩ := by
    refine ⟨1, by decide, by decide, by decide +kernel, ?_⟩
    intro raw hraw
    rw [List.mem_singleton.mp hraw, Percent.not_undecodable_iff]
    exact ⟨"a".toList, by decide +kernel⟩
  have he := (herror _).mpr ⟨hm, hpieces ▸ hfirst⟩
  refine ⟨hm, ?_, he⟩
  rw [Option.eq_none_iff_forall_ne_some]
  intro ps hps
  rw [hparams, he] at hps
  cases hps

end Template

end RouteTemplate
