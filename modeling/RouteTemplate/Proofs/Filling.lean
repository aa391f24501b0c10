import RouteTemplate.Proofs.Matching

/-!
# RouteTemplate.Proofs.Filling — paths with given values

`fill` puts raw values at the places of the parameters, so `Template.filled` is the path with given
raw values.  Filling is the inverse of matching: the path of values that hold no slash is matched
with these values, unless one of them is empty (`captures_filled`), and every path that matches is
the path of its captures (`filled_of_captures`).
-/

namespace RouteTemplate

/-- The segments of a template with raw values at the places of the parameters. -/
def fill : List Segment → List (List Char) → List (List Char)
  | [], _ => []
  | .literal t :: ss, raws => t :: fill ss raws
  | .param _ :: ss, [] => [] :: fill ss []
  | .param _ :: ss, raw :: raws => raw :: fill ss raws

/-! ### Pieces -/

@[simp] theorem length_fill (ss : List Segment) (raws : List (List Char)) :
    (fill ss raws).length = ss.length := by
  fun_induction fill ss raws with
  | case1 => rfl
  | case2 t ss raws ih => rw [List.length_cons, List.length_cons, ih]
  | case3 n ss ih => rw [List.length_cons, List.length_cons, ih]
  | case4 n ss raw raws ih => rw [List.length_cons, List.length_cons, ih]

theorem slash_notMem_fill {ss : List Segment} (hwf : ∀ s ∈ ss, s.WellFormed)
    {raws : List (List Char)} (hr : ∀ raw ∈ raws, '/' ∉ raw) : ∀ p ∈ fill ss raws, '/' ∉ p := by
  fun_induction fill ss raws with
  | case1 => simp
  | case2 t ss raws ih =>
    rw [List.forall_mem_cons] at hwf ⊢
    exact ⟨hwf.1.1, ih hwf.2 hr⟩
  | case3 n ss ih =>
    rw [List.forall_mem_cons] at hwf ⊢
    exact ⟨List.not_mem_nil, ih hwf.2 hr⟩
  | case4 n ss raw raws ih =>
    rw [List.forall_mem_cons] at hwf hr ⊢
    exact ⟨hr.1, ih hwf.2 hr.2⟩

/-- The segments admit what they are filled with, unless a value is empty. -/
theorem forall₂_admits_fill_iff {ss : List Segment} (hwf : ∀ s ∈ ss, s.WellFormed)
    {raws : List (List Char)} (hl : raws.length = (paramNames ss).length) :
    List.Forall₂ Admits (ss.map Segment.text) (fill ss raws) ↔ ∀ raw ∈ raws, raw ≠ [] := by
  fun_induction fill ss raws with
  | case1 raws =>
    obtain rfl := List.length_eq_zero_iff.mp hl
    simp
  | case2 t ss raws ih =>
    rw [List.forall_mem_cons] at hwf
    rw [List.map_cons, List.forall₂_cons, Segment.text_literal, admits_literal hwf.1.2, ih hwf.2 hl]
    exact and_iff_right rfl
  | case3 n ss ih => simp at hl
  | case4 n ss raw raws ih =>
    rw [List.forall_mem_cons] at hwf
    rw [paramNames_param_cons, List.length_cons, List.length_cons, Nat.add_right_cancel_iff] at hl
    rw [List.map_cons, List.forall₂_cons, Segment.text_param, admits_param, ih hwf.2 hl,
      List.forall_mem_cons]

theorem paramPieces_fill {ss : List Segment} (hwf : ∀ s ∈ ss, s.WellFormed)
    {raws : List (List Char)} (hl : raws.length = (paramNames ss).length) :
    paramPieces (ss.map Segment.text) (fill ss raws) = raws := by
  fun_induction fill ss raws with
  | case1 raws =>
    obtain rfl := List.length_eq_zero_iff.mp hl
    rfl
  | case2 t ss raws ih =>
    rw [List.forall_mem_cons] at hwf
    rw [List.map_cons, Segment.text_literal, paramPieces_cons_literal hwf.1.2, ih hwf.2 hl]
  | case3 n ss ih => simp at hl
  | case4 n ss raw raws ih =>
    rw [List.forall_mem_cons] at hwf
    rw [paramNames_param_cons, List.length_cons, List.length_cons, Nat.add_right_cancel_iff] at hl
    rw [List.map_cons, Segment.text_param, paramPieces_cons_param, ih hwf.2 hl]

theorem mem_of_mem_paramPieces {segments ps : List (List Char)} {p : List Char}
    (h : p ∈ paramPieces segments ps) : p ∈ ps := by
  obtain ⟨e, he, rfl⟩ := List.mem_map.mp h
  exact (List.of_mem_zip (List.mem_filter.mp he).1).2

theorem fill_paramPieces {ss : List Segment} (hwf : ∀ s ∈ ss, s.WellFormed) {ps : List (List Char)}
    (h : List.Forall₂ Admits (ss.map Segment.text) ps) :
    fill ss (paramPieces (ss.map Segment.text) ps) = ps := by
  induction ss generalizing ps with
  | nil =>
    rw [List.map_nil, List.forall₂_nil_left_iff] at h
    rw [h, fill]
  | cons s ss ih =>
    rw [List.forall_mem_cons] at hwf
    obtain ⟨p, ps, hp, hps, rfl⟩ := List.forall₂_cons_left_iff.mp h
    cases s with
    | literal t =>
      rw [Segment.text_literal, admits_literal hwf.1.2] at hp
      rw [List.map_cons, Segment.text_literal, paramPieces_cons_literal hwf.1.2, fill,
        ih hwf.2 hps, hp]
    | param n =>
      rw [List.map_cons, Segment.text_param, paramPieces_cons_param, fill, ih hwf.2 hps]

/-! ### Paths -/

namespace Template

variable (t : Template)

/-- The path with given raw values. -/
def filled (raws : List (List Char)) : List Char := joinPieces (fill t.segments raws)

theorem pieces_filled {raws : List (List Char)} (hr : ∀ raw ∈ raws, '/' ∉ raw) :
    pieces (t.filled raws) = fill t.segments raws := by
  refine pieces_joinPieces ?_ (slash_notMem_fill t.wellFormed hr)
  intro h
  have hl := length_fill t.segments raws
  rw [h, List.length_nil] at hl
  exact t.segments_ne_nil (List.length_eq_zero_iff.mp hl.symm)

/-- The path of values that are not empty is matched with these values. -/
theorem captures_filled {raws : List (List Char)} (hl : raws.length = t.paramCount)
    (hr : ∀ raw ∈ raws, '/' ∉ raw) (hne : ∀ raw ∈ raws, raw ≠ []) :
    t.captures (t.filled raws) = some raws := by
  rw [captures_eq_some_iff, pieces_filled t hr, rawSegments_eq, paramPieces_fill t.wellFormed hl]
  exact ⟨(forall₂_admits_fill_iff t.wellFormed hl).mpr hne, rfl⟩

/-- A path with an empty value is not matched. -/
theorem isMatch_filled_iff {raws : List (List Char)} (hl : raws.length = t.paramCount)
    (hr : ∀ raw ∈ raws, '/' ∉ raw) :
    t.isMatch (t.filled raws) = true ↔ ∀ raw ∈ raws, raw ≠ [] := by
  rw [isMatch_eq_true_iff, pieces_filled t hr, rawSegments_eq,
    forall₂_admits_fill_iff t.wellFormed hl]

/-- A path that matches is the path of what is captured. -/
theorem filled_of_captures {path : List Char} {raws : List (List Char)}
    (h : t.captures path = some raws) : t.filled raws = path := by
  obtain ⟨hf, rfl⟩ := t.captures_eq_some_iff.mp h
  rw [rawSegments_eq] at hf ⊢
  rw [filled, fill_paramPieces t.wellFormed hf, joinPieces_pieces]

theorem length_of_captures {path : List Char} {raws : List (List Char)}
    (h : t.captures path = some raws) : raws.length = t.paramCount := by
  obtain ⟨hf, rfl⟩ := t.captures_eq_some_iff.mp h
  rw [rawSegments_eq] at hf ⊢
  exact length_paramPieces t.wellFormed hf

theorem slash_notMem_of_captures {path : List Char} {raws : List (List Char)}
    (h : t.captures path = some raws) : ∀ raw ∈ raws, '/' ∉ raw := by
  obtain ⟨-, rfl⟩ := t.captures_eq_some_iff.mp h
  intro raw hr
  exact slash_notMem_pieces path raw (mem_of_mem_paramPieces hr)

/-- Nothing that is captured is empty. -/
theorem ne_nil_of_captures {path : List Char} {raws : List (List Char)}
    (h : t.captures path = some raws) : ∀ raw ∈ raws, raw ≠ [] := by
  have hm : t.isMatch (t.filled raws) = true := by
    rw [filled_of_captures t h]
    exact t.isMatch_iff_exists_captures.mpr ⟨raws, h⟩
  exact (t.isMatch_filled_iff (t.length_of_captures h) (t.slash_notMem_of_captures h)).mp hm

theorem filled_injective {raws raws' : List (List Char)} (hl : raws.length = t.paramCount)
    (hl' : raws'.length = t.paramCount) (hr : ∀ raw ∈ raws, '/' ∉ raw)
    (hr' : ∀ raw ∈ raws', '/' ∉ raw) (h : t.filled raws = t.filled raws') : raws = raws' := by
  have hp := congrArg pieces h
  rw [pieces_filled t hr, pieces_filled t hr'] at hp
  rw [← paramPieces_fill t.wellFormed hl, hp, paramPieces_fill t.wellFormed hl']

end Template

end RouteTemplate
