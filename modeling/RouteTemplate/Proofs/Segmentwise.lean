import Mathlib.Data.List.Forall2
import RouteTemplate.Match
import RouteTemplate.Proofs.Pattern

/-!
# RouteTemplate.Proofs.Segmentwise — matching piece by piece

A template and a path are cut at their slashes.  The path matches when it has as many pieces as the
template has segments and each piece is admitted by the segment at its place; the captures are the
pieces at the places of the parameters.  The pattern, which is searched in the whole path at once,
follows this rule, and so does the comparison that stands in for it when there are no parameters
(`captures_eq_some_iff`, `isMatch_eq_true_iff`).
-/

namespace RouteTemplate

/-- What a raw segment of a template asks of the piece of a path at its place: a parameter takes any
piece that is not empty, literal text only itself. -/
def Admits (segment piece : List Char) : Prop :=
  if segment.head? = some ':' then piece ≠ [] else piece = segment

/-- The pieces of a path at the places of the parameters, in the order of the template. -/
def paramPieces (segments ps : List (List Char)) : List (List Char) :=
  ((segments.zip ps).filter fun e => e.1.head? = some ':').map Prod.snd

/-! ### One segment -/

@[simp] theorem admits_param {n piece : List Char} : Admits (':' :: n) piece ↔ piece ≠ [] := by
  simp [Admits]

theorem admits_literal {t piece : List Char} (ht : t.head? ≠ some ':') :
    Admits t piece ↔ piece = t := by
  rw [Admits, if_neg ht]

@[simp] theorem paramPieces_nil (ps : List (List Char)) : paramPieces [] ps = [] := by
  simp [paramPieces]

@[simp] theorem paramPieces_cons_param (n piece : List Char) (segments ps : List (List Char)) :
    paramPieces ((':' :: n) :: segments) (piece :: ps) = piece :: paramPieces segments ps := by
  simp [paramPieces]

theorem paramPieces_cons_literal {t : List Char} (ht : t.head? ≠ some ':') (piece : List Char)
    (segments ps : List (List Char)) :
    paramPieces (t :: segments) (piece :: ps) = paramPieces segments ps := by
  simp [paramPieces, ht]

theorem matches_ofSegment_iff {s : Segment} (hs : s.WellFormed) {cs : List Char}
    {taken : List (List Char)} :
    Pattern.Matches (Pattern.ofSegment s) cs taken ↔
      '/' ∉ cs ∧ Admits s.text cs ∧ taken = paramPieces [s.text] [cs] := by
  cases s with
  | literal t =>
    rw [Pattern.ofSegment, Pattern.matches_map_char_iff, Segment.text_literal, admits_literal hs.2,
      paramPieces_cons_literal hs.2, paramPieces_nil]
    constructor
    · rintro ⟨rfl, rfl⟩
      exact ⟨hs.1, rfl, rfl⟩
    · rintro ⟨-, rfl, rfl⟩
      exact ⟨rfl, rfl⟩
  | param n =>
    rw [Pattern.ofSegment, Pattern.matches_capture_iff, Segment.text_param, admits_param,
      paramPieces_cons_param, paramPieces_nil]
    constructor
    · rintro ⟨part, ds, rest, rfl, rfl, hne, hs, h⟩
      obtain ⟨rfl, rfl⟩ := Pattern.matches_nil_iff.mp h
      rw [List.append_nil]
      exact ⟨hs, hne, rfl⟩
    · rintro ⟨hs, hne, rfl⟩
      exact ⟨cs, [], [], (List.append_nil cs).symm, rfl, hne, hs, .nil⟩

/-! ### All segments -/

theorem paramPieces_cons (s p : List Char) (segments ps : List (List Char)) :
    paramPieces (s :: segments) (p :: ps) = paramPieces [s] [p] ++ paramPieces segments ps := by
  simp only [paramPieces, List.zip_cons_cons, List.zip_nil_left, ← List.map_append,
    ← List.filter_append, List.singleton_append]

/-- The pattern of segments matches segment by segment: a capture neither ends inside a piece nor
reaches over a slash. -/
theorem matches_ofSegments_iff {ss : List Segment} (hne : ss ≠ []) (hwf : ∀ s ∈ ss, s.WellFormed)
    {cs : List Char} {taken : List (List Char)} :
    Pattern.Matches (Pattern.ofSegments ss) cs taken ↔
      List.Forall₂ Admits (ss.map Segment.text) (pieces cs) ∧
        taken = paramPieces (ss.map Segment.text) (pieces cs) := by
  induction ss generalizing cs taken with
  | nil => exact absurd rfl hne
  | cons s ss ih =>
    have hs := hwf s List.mem_cons_self
    cases ss with
    | nil =>
      rw [Pattern.ofSegments, matches_ofSegment_iff hs, List.map_singleton]
      constructor
      · rintro ⟨hcs, ha, rfl⟩
        rw [pieces_of_notMem hcs]
        exact ⟨.cons ha .nil, rfl⟩
      · rintro ⟨ha, rfl⟩
        obtain ⟨p, ps, hp, hps, heq⟩ := List.forall₂_cons_left_iff.mp ha
        rw [List.forall₂_nil_left_iff] at hps
        subst hps
        have hcs : cs = p := by rw [← joinPieces_pieces cs, heq, joinPieces_singleton]
        rw [heq, ← hcs]
        exact ⟨slash_notMem_pieces cs cs (by rw [heq, hcs]; simp), hcs ▸ hp, rfl⟩
    | cons s' ss =>
      have ih := @ih (by simp) fun x hx => hwf x (List.mem_cons_of_mem s hx)
      rw [Pattern.ofSegments, Pattern.matches_append_iff, List.map_cons]
      -- neither side holds a slash, so the slash between them is the first one of the path
      constructor
      · rintro ⟨cs₁, cs₂, t₁, t₂, rfl, rfl, h₁, h₂⟩
        obtain ⟨hcs₁, ha, rfl⟩ := (matches_ofSegment_iff hs).mp h₁
        obtain ⟨ds, rfl, hm⟩ := Pattern.matches_char_iff.mp h₂
        obtain ⟨hds, rfl⟩ := ih.mp hm
        rw [pieces_append_slash hcs₁, paramPieces_cons s.text cs₁ _ (pieces ds)]
        exact ⟨.cons ha hds, rfl⟩
      · rintro ⟨ha, rfl⟩
        obtain ⟨p, ps, hp, hps, heq⟩ := List.forall₂_cons_left_iff.mp ha
        have hslash := slash_notMem_pieces cs
        rw [heq] at hslash
        have hne : ps ≠ [] := by
          rintro rfl
          cases hps
        have hpieces := pieces_joinPieces hne fun x hx => hslash x (List.mem_cons_of_mem p hx)
        obtain ⟨q, qs, rfl⟩ := List.exists_cons_of_ne_nil hne
        have hcs : cs = p ++ '/' :: joinPieces (q :: qs) := by
          rw [← joinPieces_pieces cs, heq, joinPieces_cons_cons]
        rw [heq, paramPieces_cons s.text p]
        refine ⟨p, '/' :: joinPieces (q :: qs), _, _, hcs, rfl, ?_, .char '/' ?_⟩
        · exact (matches_ofSegment_iff hs).mpr ⟨hslash p List.mem_cons_self, hp, rfl⟩
        · exact ih.mpr (by rw [hpieces]; exact ⟨hps, rfl⟩)

/-- Segments without parameters admit their own text and nothing else. -/
theorem forall₂_admits_of_paramNames_eq_nil {ss : List Segment} (hwf : ∀ s ∈ ss, s.WellFormed)
    (hn : paramNames ss = []) (ps : List (List Char)) :
    (List.Forall₂ Admits (ss.map Segment.text) ps ↔ ps = ss.map Segment.text) ∧
      paramPieces (ss.map Segment.text) ps = [] := by
  induction ss generalizing ps with
  | nil => simp
  | cons s ss ih =>
    cases s with
    | param n => simp at hn
    | literal t =>
      have ht : t.head? ≠ some ':' := (hwf _ List.mem_cons_self).2
      have ih := ih (fun x hx => hwf x (List.mem_cons_of_mem _ hx)) hn
      rw [List.map_cons, Segment.text_literal]
      cases ps with
      | nil => simp [paramPieces]
      | cons p ps =>
        rw [paramPieces_cons_literal ht, List.forall₂_cons, admits_literal ht, (ih ps).1,
          List.cons.injEq]
        exact ⟨Iff.rfl, (ih ps).2⟩

namespace Template

variable (t : Template)

theorem rawSegments_eq : t.rawSegments = t.segments.map Segment.text := t.pieces_text

theorem isStatic_eq_true_iff : t.isStatic = true ↔ paramNames t.segments = [] := by
  rw [isStatic, names, List.isEmpty_iff]

theorem eq_text_iff {path : List Char} : path = t.text ↔ pieces path = t.rawSegments := by
  constructor
  · rintro rfl
    rfl
  · intro h
    rw [← joinPieces_pieces path, h, rawSegments, joinPieces_pieces]

/-- A path matches when its pieces are admitted one by one, and the captures are the pieces at the
places of the parameters.  Templates without parameters, which are compared as a whole, follow the
same rule. -/
theorem captures_eq_some_iff {path : List Char} {raws : List (List Char)} :
    t.captures path = some raws ↔
      List.Forall₂ Admits t.rawSegments (pieces path) ∧
        raws = paramPieces t.rawSegments (pieces path) := by
  unfold captures
  split
  · rename_i hstatic
    obtain ⟨hf, hp⟩ := forall₂_admits_of_paramNames_eq_nil t.wellFormed
      (t.isStatic_eq_true_iff.mp hstatic) (pieces path)
    rw [← rawSegments_eq] at hf hp
    rw [hf, hp, ← eq_text_iff]
    split
    · rename_i heq
      simp [heq, eq_comm]
    · rename_i heq
      simp [heq]
  · rw [rawSegments_eq, ← matches_ofSegments_iff t.segments_ne_nil t.wellFormed]
    constructor
    · exact Pattern.matches_of_captures
    · intro h
      -- the search finds some captures, and the rule leaves no choice which
      obtain ⟨found, hf⟩ := Option.ne_none_iff_exists'.mp (Pattern.captures_ne_none h)
      have hm := Pattern.matches_of_captures hf
      rw [matches_ofSegments_iff t.segments_ne_nil t.wellFormed] at h hm
      rw [h.2, ← hm.2]
      exact hf

/-- A path is accepted when its pieces are admitted one by one. -/
theorem isMatch_eq_true_iff {path : List Char} :
    t.isMatch path = true ↔ List.Forall₂ Admits t.rawSegments (pieces path) := by
  unfold isMatch
  split
  · rename_i hstatic
    rw [beq_iff_eq, eq_text_iff, rawSegments_eq]
    exact (forall₂_admits_of_paramNames_eq_nil t.wellFormed
      (t.isStatic_eq_true_iff.mp hstatic) (pieces path)).1.symm
  · rw [pattern, Pattern.accepts_eq_true_iff, rawSegments_eq]
    simp only [matches_ofSegments_iff t.segments_ne_nil t.wellFormed, exists_and_left,
      exists_eq, and_true]

/-- A path is accepted when there is something to capture. -/
theorem isMatch_iff_exists_captures {path : List Char} :
    t.isMatch path = true ↔ ∃ raws, t.captures path = some raws := by
  rw [isMatch_eq_true_iff]
  constructor
  · intro h
    exact ⟨_, t.captures_eq_some_iff.mpr ⟨h, rfl⟩⟩
  · rintro ⟨raws, hc⟩
    exact (t.captures_eq_some_iff.mp hc).1

end Template

end RouteTemplate
