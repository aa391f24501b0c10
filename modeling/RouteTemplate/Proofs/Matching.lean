import RouteTemplate.Proofs.Segmentwise

/-!
# RouteTemplate.Proofs.Matching — the values of a path

A path that matches has one raw value for each parameter, and it is a match when all of them decode
(`tryMatch_eq_some_iff`).  Together with the rule for pieces this says what matching is:
`match_segmentwise`.
-/

namespace RouteTemplate

/-! ### Named values -/

theorem exists_forall₂_iff {α β : Type} {R : α → β → Prop} {as : List α} :
    (∃ bs, List.Forall₂ R as bs) ↔ ∀ a ∈ as, ∃ b, R a b := by
  induction as with
  | nil => exact ⟨fun _ a ha => absurd ha List.not_mem_nil, fun _ => ⟨[], .nil⟩⟩
  | cons a as ih =>
    rw [List.forall_mem_cons, ← ih]
    constructor
    · rintro ⟨bs, h⟩
      obtain ⟨b, bs, hb, hbs, -⟩ := List.forall₂_cons_left_iff.mp h
      exact ⟨⟨b, hb⟩, bs, hbs⟩
    · rintro ⟨⟨b, hb⟩, bs, hbs⟩
      exact ⟨b :: bs, .cons hb hbs⟩

/-- What holds of the left members holds of the right members if the relation carries it over. -/
theorem forall_mem_of_forall₂ {α β : Type} {R : α → β → Prop} {P : α → Prop} {Q : β → Prop}
    (hPQ : ∀ {a b}, R a b → P a → Q b) {as : List α} {bs : List β} (h : List.Forall₂ R as bs)
    (hP : ∀ a ∈ as, P a) : ∀ b ∈ bs, Q b := by
  induction h with
  | nil => exact fun b hb => absurd hb List.not_mem_nil
  | cons hab _ ih =>
    rw [List.forall_mem_cons] at hP ⊢
    exact ⟨hPQ hab hP.1, ih hP.2⟩

theorem decodeEntries_cons {name raw : List Char} {rest : List (List Char × List Char)}
    {ds : List (List Char × List Char)} :
    decodeEntries ((name, raw) :: rest) = .ok ds ↔
      ∃ value es, ds = (name, value) :: es ∧ Percent.decode raw = .ok value ∧
        decodeEntries rest = .ok es := by
  rw [decodeEntries]
  cases Percent.decode raw with
  | error e => simp
  | ok v =>
    cases decodeEntries rest with
    | error e => simp
    | ok es => simp [eq_comm]

/-- Raw values decode under names when each of them decodes. -/
theorem decodeEntries_zip_eq_ok_iff {names raws : List (List Char)}
    {ds : List (List Char × List Char)} (hl : raws.length = names.length) :
    decodeEntries (names.zip raws) = .ok ds ↔
      ds.map Prod.fst = names ∧
        List.Forall₂ (fun raw value => Percent.decode raw = .ok value) raws (ds.map Prod.snd) := by
  induction names generalizing raws ds with
  | nil =>
    obtain rfl := List.length_eq_zero_iff.mp hl
    rw [List.zip_nil_left, decodeEntries, Except.ok.injEq, List.map_eq_nil_iff]
    constructor
    · rintro rfl
      exact ⟨rfl, .nil⟩
    · rintro ⟨rfl, -⟩
      rfl
  | cons n names ih =>
    obtain ⟨raw, raws, rfl⟩ := List.exists_cons_of_length_eq_add_one hl
    rw [List.length_cons, List.length_cons, Nat.add_right_cancel_iff] at hl
    rw [List.zip_cons_cons, decodeEntries_cons]
    constructor
    · rintro ⟨value, es, rfl, hd, hes⟩
      obtain ⟨hn, hv⟩ := (ih hl).mp hes
      exact ⟨congrArg (n :: ·) hn, .cons hd hv⟩
    · rintro ⟨hn, hv⟩
      obtain ⟨⟨m, value⟩, es, rfl⟩ := List.exists_cons_of_ne_nil
        (show ds ≠ [] by rintro rfl; exact List.cons_ne_nil _ _ hn.symm)
      rw [List.map_cons, List.cons.injEq] at hn
      obtain ⟨rfl, hn⟩ := hn
      obtain ⟨hd, hv⟩ := List.forall₂_cons.mp hv
      exact ⟨value, es, rfl, hd, (ih hl).mpr ⟨hn, hv⟩⟩

/-- Every parameter has one piece. -/
theorem length_paramPieces {ss : List Segment} (hwf : ∀ s ∈ ss, s.WellFormed)
    {ps : List (List Char)} (h : List.Forall₂ Admits (ss.map Segment.text) ps) :
    (paramPieces (ss.map Segment.text) ps).length = (paramNames ss).length := by
  induction ss generalizing ps with
  | nil => simp
  | cons s ss ih =>
    obtain ⟨p, ps, -, hps, rfl⟩ := List.forall₂_cons_left_iff.mp h
    have ih := ih (fun x hx => hwf x (List.mem_cons_of_mem s hx)) hps
    cases s with
    | literal t =>
      rw [List.map_cons, Segment.text_literal,
        paramPieces_cons_literal (hwf _ List.mem_cons_self).2, ih, paramNames_literal_cons]
    | param n =>
      rw [List.map_cons, Segment.text_param, paramPieces_cons_param, List.length_cons, ih,
        paramNames_param_cons, List.length_cons]

namespace Template

variable (t : Template)

theorem decode_eq_ok_iff {raws : List (List Char)} {ps : Params} :
    t.decode raws = .ok ps ↔ decodeEntries (t.names.zip raws) = .ok ps.entries := by
  unfold decode
  split
  · rename_i e h
    simp [h]
  · rename_i es h
    simp [h, Params.ext_iff]

theorem tryMatch_eq_none_iff {path : List Char} :
    t.tryMatch path = .ok none ↔ t.captures path = none := by
  unfold tryMatch
  cases t.captures path with
  | none => simp
  | some raws => cases hd : t.decode raws <;> simp [hd]

/-- A match gives every parameter what its raw value decodes to. -/
theorem tryMatch_eq_some_iff {path : List Char} {ps : Params} :
    t.tryMatch path = .ok (some ps) ↔
      ∃ raws, t.captures path = some raws ∧ ps.names = t.names ∧
        List.Forall₂ (fun raw value => Percent.decode raw = .ok value) raws ps.values := by
  have hdec : t.tryMatch path = .ok (some ps) ↔
      ∃ raws, t.captures path = some raws ∧ t.decode raws = .ok ps := by
    unfold tryMatch
    cases t.captures path with
    | none => simp
    | some raws => cases hd : t.decode raws <;> simp [hd]
  rw [hdec]
  refine exists_congr fun raws => and_congr_right fun hc => ?_
  obtain ⟨hf, rfl⟩ := t.captures_eq_some_iff.mp hc
  rw [rawSegments_eq] at hf ⊢
  have hl : (paramPieces (t.segments.map Segment.text) (pieces path)).length = t.names.length :=
    length_paramPieces t.wellFormed hf
  rw [decode_eq_ok_iff, decodeEntries_zip_eq_ok_iff hl]
  rfl

theorem params?_eq_some_iff {path : List Char} {ps : Params} :
    t.params? path = some ps ↔ t.tryMatch path = .ok (some ps) := by
  unfold params?
  cases t.tryMatch path with
  | error e => simp
  | ok p? => simp

/-- One value for each parameter makes a match. -/
theorem exists_params {values : List (List Char)} (h : values.length = t.paramCount) :
    ∃ ps : Params, ps.names = t.names ∧ ps.values = values := by
  have hn : (t.names.zip values).map Prod.fst = t.names := List.map_fst_zip (Nat.le_of_eq h.symm)
  exact ⟨⟨t.names.zip values, by rw [hn]; exact t.nodup⟩, hn, List.map_snd_zip (Nat.le_of_eq h)⟩

theorem length_values {ps : Params} (hn : ps.names = t.names) :
    ps.values.length = t.paramCount := by
  rw [paramCount, ← hn, Params.names, Params.values, List.length_map, List.length_map]

/-- **Matching is segment-wise.**  A path matches when it has as many pieces as the template has
segments, is equal to it at literal segments and not empty at parameters; the values are the
decoded pieces at the places of the parameters, whole and in the order of the template, and there
are values as soon as these pieces decode. -/
theorem match_segmentwise (path : List Char) :
    (t.isMatch path = true ↔ List.Forall₂ Admits t.rawSegments (pieces path)) ∧
      (∀ ps : Params, t.tryMatch path = .ok (some ps) ↔
        t.isMatch path = true ∧ ps.names = t.names ∧
          List.Forall₂ (fun raw value => Percent.decode raw = .ok value)
            (paramPieces t.rawSegments (pieces path)) ps.values) ∧
      ((∃ ps : Params, t.tryMatch path = .ok (some ps)) ↔
        t.isMatch path = true ∧ ∀ raw ∈ paramPieces t.rawSegments (pieces path),
          ∃ value, Percent.decode raw = .ok value) := by
  have hsome : ∀ ps : Params, t.tryMatch path = .ok (some ps) ↔
      t.isMatch path = true ∧ ps.names = t.names ∧
        List.Forall₂ (fun raw value => Percent.decode raw = .ok value)
          (paramPieces t.rawSegments (pieces path)) ps.values := by
    intro ps
    rw [tryMatch_eq_some_iff, isMatch_eq_true_iff]
    constructor
    · rintro ⟨raws, hc, hn, hv⟩
      obtain ⟨hf, rfl⟩ := t.captures_eq_some_iff.mp hc
      exact ⟨hf, hn, hv⟩
    · rintro ⟨hf, hn, hv⟩
      exact ⟨_, t.captures_eq_some_iff.mpr ⟨hf, rfl⟩, hn, hv⟩
  refine ⟨t.isMatch_eq_true_iff, hsome, ?_⟩
  constructor
  · rintro ⟨ps, h⟩
    obtain ⟨hm, -, hv⟩ := (hsome ps).mp h
    exact ⟨hm, exists_forall₂_iff.mp ⟨ps.values, hv⟩⟩
  · rintro ⟨hm, hv⟩
    obtain ⟨values, hv⟩ := exists_forall₂_iff.mpr hv
    have hl := length_paramPieces t.wellFormed (t.rawSegments_eq ▸ t.isMatch_eq_true_iff.mp hm)
    rw [← rawSegments_eq] at hl
    obtain ⟨ps, hn, rfl⟩ := t.exists_params (hv.length_eq.symm.trans hl)
    exact ⟨ps, (hsome ps).mpr ⟨hm, hn, hv⟩⟩

end Template

end RouteTemplate
