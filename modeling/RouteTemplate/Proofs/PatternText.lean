import RouteTemplate.Proofs.Segmentwise
import RouteTemplate.Template.Regex

/-!
# RouteTemplate.Proofs.PatternText — what the written pattern reads back as

The text of a pattern is put together from the texts of the segments.  Read as a regular expression
it is one row of terms: the two anchors, and between them the characters of the literal segments and
one group for each parameter (`Regex.read?_text`).  So no character of a template acts as an
operator, and the text gives away the literal segments and the places of the parameters, and nothing
more (`pattern_text_denotes`).
-/

namespace RouteTemplate

open Pattern Regex

/-! ### Reading units -/

/-- A group that captures one or more characters other than a slash. -/
def Regex.captureTerm : Term := .group [[.repeated (.set true ['/']) .oneOrMore true]]

/-- The term that a unit stands for. -/
def PatternItem.term : PatternItem → Term
  | .char c => .char c
  | .capture => captureTerm

theorem PatternItem.term_injective : Function.Injective PatternItem.term := by
  intro i j h
  cases i with
  | char c =>
    cases j with
    | char d => rw [Term.char.inj h]
    | capture => cases h
  | capture =>
    cases j with
    | char d => cases h
    | capture => rfl

namespace Regex

/-- What is not an operator character is literal. -/
theorem operator_of_notMem {c : Char} (hc : c ∉ metaCharacters) (r : Reading) :
    r.operator c = some (r.add (.char c)) := by
  unfold Reading.operator
  split
  case h_13 => rfl
  all_goals exact absurd (by decide) hc

/-- The text of a unit is read as its term, whatever was read before it. -/
theorem foldlM_step_itemText (i : PatternItem) {r : Reading} (hr : r.mode = .term) :
    (itemText i).foldlM Reading.step r = some (r.add i.term) := by
  obtain ⟨mode, level, outer⟩ := r
  subst hr
  cases i with
  | capture => rfl
  | char c =>
    by_cases hc : c ∈ metaCharacters
    · have htext : itemText (.char c) = ['\\', c] := if_pos hc
      have hread : Reading.step ⟨.escaped, level, outer⟩ c =
          some (Reading.add ⟨.escaped, level, outer⟩ (.char c)) := if_pos hc
      rw [htext]
      show (Reading.step ⟨.escaped, level, outer⟩ c).bind some = _
      rw [hread]
      rfl
    · have htext : itemText (.char c) = [c] := if_neg hc
      rw [htext]
      show (Reading.operator ⟨.term, level, outer⟩ c).bind some = _
      rw [operator_of_notMem hc]
      rfl

/-- Units one after the other are read as their terms in a row. -/
theorem foldlM_step_flatMap (p : Pattern) {r : Reading} (hr : r.mode = .term) :
    (p.flatMap itemText).foldlM Reading.step r =
      some ⟨.term, ⟨r.level.complete, (p.map PatternItem.term).reverse ++ r.level.terms⟩,
        r.outer⟩ := by
  induction p generalizing r with
  | nil =>
    obtain ⟨mode, level, outer⟩ := r
    subst hr
    rfl
  | cons i p ih =>
    rw [List.flatMap_cons, List.foldlM_append, foldlM_step_itemText i hr]
    show (p.flatMap itemText).foldlM Reading.step (r.add i.term) = _
    rw [ih rfl, List.map_cons, List.reverse_cons, List.append_assoc]
    rfl

/-- The text of a pattern is read as one row: its units between the two anchors. -/
theorem read?_text (p : Pattern) :
    read? p.text = some [.start :: p.map PatternItem.term ++ [.finish]] := by
  have hopen : Reading.empty.step '^' = some (Reading.empty.add .start) := rfl
  have hclose : ∀ l : Level, Reading.step ⟨.term, l, []⟩ '$' =
      some (Reading.add ⟨.term, l, []⟩ .finish) := fun _ => rfl
  have hrun : p.text.foldlM Reading.step Reading.empty =
      some ⟨.term, ⟨[], .finish :: ((p.map PatternItem.term).reverse ++ [.start])⟩, []⟩ := by
    rw [text, List.foldlM_append, List.foldlM_cons, hopen]
    show ((p.flatMap itemText).foldlM Reading.step (Reading.empty.add .start)).bind _ = _
    rw [foldlM_step_flatMap p rfl]
    show (Reading.step ⟨.term, _, []⟩ '$').bind some = _
    rw [hclose]
    rfl
  rw [read?, hrun]
  show some [List.reverse _] = _
  rw [List.reverse_cons, List.reverse_append, List.reverse_reverse]
  rfl

end Regex

/-- Patterns that are written alike are the same. -/
theorem Pattern.text_injective : Function.Injective Pattern.text := by
  intro p q h
  have hread := congrArg read? h
  rw [read?_text, read?_text, Option.some.injEq, List.cons.injEq, List.append_left_inj,
    List.cons.injEq] at hread
  exact List.map_injective_iff.mpr PatternItem.term_injective hread.1.2

/-! ### Segments -/

namespace Segment

/-- The text of a literal segment. -/
def literal? : Segment → Option (List Char)
  | .literal t => some t
  | .param _ => none

/-- The part of an expression that is written for a segment. -/
def written : Segment → List Char
  | .literal t => t.flatMap fun c => if c ∈ metaCharacters then ['\\', c] else [c]
  | .param _ => "([^/]+)".toList

/-- The terms that a segment stands for. -/
def terms : Segment → List Term
  | .literal t => t.map .char
  | .param _ => [captureTerm]

theorem flatMap_itemText_ofSegment (s : Segment) : (ofSegment s).flatMap itemText = s.written := by
  cases s with
  | literal t => exact List.flatMap_map ..
  | param n => rfl

theorem map_term_ofSegment (s : Segment) : (ofSegment s).map PatternItem.term = s.terms := by
  cases s with
  | literal t => exact List.map_map
  | param n => rfl

/-- Segments are matched alike when both are literal and have the same text, or neither is. -/
theorem ofSegment_eq_iff {s u : Segment} : ofSegment s = ofSegment u ↔ s.literal? = u.literal? := by
  have hchar : Function.Injective (List.map PatternItem.char) :=
    List.map_injective_iff.mpr fun _ _ h => PatternItem.char.inj h
  have hcapture : ∀ t : List Char, t.map PatternItem.char ≠ [.capture] := by
    intro t h
    have hmem : PatternItem.capture ∈ t.map PatternItem.char := h ▸ List.mem_singleton_self _
    obtain ⟨c, -, hc⟩ := List.mem_map.mp hmem
    cases hc
  cases s with
  | literal t =>
    cases u with
    | literal t' => exact hchar.eq_iff.trans (Option.some.injEq t t').symm.to_iff
    | param n => exact iff_of_false (hcapture t) (Option.some_ne_none t)
  | param n =>
    cases u with
    | literal t => exact iff_of_false (hcapture t).symm (Option.some_ne_none t).symm
    | param m => exact iff_of_true rfl rfl

theorem slash_notMem_ofSegment {s : Segment} (h : s.WellFormed) : .char '/' ∉ ofSegment s := by
  cases s with
  | literal t =>
    intro hmem
    obtain ⟨c, hc, heq⟩ := List.mem_map.mp hmem
    exact h.1 (PatternItem.char.inj heq ▸ hc)
  | param n =>
    intro hmem
    cases List.mem_singleton.mp hmem

end Segment

/-! ### Segments in a row -/

/-- What keeps concatenations keeps the joining of parts by a separator. -/
theorem map_intercalate_of_append {α β : Type} {f : List α → List β} (hnil : f [] = [])
    (happend : ∀ a b, f (a ++ b) = f a ++ f b) (sep : List α) (parts : List (List α)) :
    f (sep.intercalate parts) = (f sep).intercalate (parts.map f) := by
  induction parts with
  | nil => exact hnil
  | cons a parts ih =>
    cases parts with
    | nil =>
      rw [List.map_cons, List.map_nil, List.intercalate_singleton, List.intercalate_singleton]
    | cons b parts =>
      rw [List.intercalate_cons_cons, happend, happend, ih, List.map_cons (a := a),
        List.map_cons (a := b), List.intercalate_cons_cons]

theorem ofSegments_eq_intercalate (ss : List Segment) :
    ofSegments ss = [.char '/'].intercalate (ss.map ofSegment) := by
  fun_induction ofSegments ss with
  | case1 => rfl
  | case2 s => rw [List.map_cons, List.map_nil, List.intercalate_singleton]
  | case3 s s' ss ih =>
    rw [ih, List.map_cons (a := s), List.map_cons (a := s'), List.intercalate_cons_cons,
      List.append_assoc]
    rfl

theorem rowGroups_append (ts us : List Term) :
    rowGroups (ts ++ us) = rowGroups ts + rowGroups us := by
  induction ts with
  | nil => rw [List.nil_append, rowGroups, Nat.zero_add]
  | cons t ts ih => rw [List.cons_append, rowGroups, rowGroups, ih, Nat.add_assoc]

theorem rowGroups_map_char (cs : List Char) : rowGroups (cs.map .char) = 0 := by
  induction cs with
  | nil => rfl
  | cons c cs ih => rw [List.map_cons, rowGroups, Term.groups, ih]

theorem rowGroups_terms (s : Segment) : rowGroups s.terms = s.name?.toList.length := by
  cases s with
  | literal t => exact rowGroups_map_char t
  | param n => rfl

/-- Segments in a row have one group for each parameter. -/
theorem rowGroups_intercalate (ss : List Segment) :
    rowGroups ([.char '/'].intercalate (ss.map Segment.terms)) = (paramNames ss).length := by
  induction ss with
  | nil => rfl
  | cons s ss ih =>
    rw [paramNames_cons, List.length_append, ← ih, ← rowGroups_terms]
    cases ss with
    | nil => rw [List.map_cons, List.map_nil, List.intercalate_singleton, List.intercalate_nil]; rfl
    | cons u ss =>
      rw [List.map_cons (a := s), List.map_cons (a := u), List.intercalate_cons_cons,
        rowGroups_append, rowGroups_append]
      rfl

/-! ### Templates -/

namespace Template

variable (t : Template)

/-- What the written pattern of a template has to stand for: the start of the text, the segments
with slashes between them, and the end of the text. -/
def terms : List Term :=
  .start :: [.char '/'].intercalate (t.segments.map Segment.terms) ++ [.finish]

theorem pattern_text_eq :
    t.pattern.text = '^' :: ['/'].intercalate (t.segments.map Segment.written) ++ ['$'] := by
  have hwritten : t.pattern.flatMap itemText =
      ['/'].intercalate (t.segments.map Segment.written) := by
    rw [pattern, ofSegments_eq_intercalate,
      map_intercalate_of_append List.flatMap_nil fun _ _ => List.flatMap_append, List.map_map]
    exact congrArg _ (List.map_congr_left fun s _ => s.flatMap_itemText_ofSegment)
  rw [Pattern.text, hwritten]

theorem read?_pattern_text : read? t.pattern.text = some [t.terms] := by
  have hterms : t.pattern.map PatternItem.term =
      [.char '/'].intercalate (t.segments.map Segment.terms) := by
    rw [pattern, ofSegments_eq_intercalate,
      map_intercalate_of_append List.map_nil fun _ _ => List.map_append, List.map_map]
    exact congrArg _ (List.map_congr_left fun s _ => s.map_term_ofSegment)
  rw [read?_text, hterms, terms]

/-- There are as many groups as parameters. -/
theorem groups_terms : groups [t.terms] = t.paramCount := by
  have hrow : rowGroups t.terms =
      rowGroups ([.char '/'].intercalate (t.segments.map Segment.terms)) := by
    rw [terms, List.cons_append, rowGroups, rowGroups_append]
    exact Nat.zero_add _
  rw [groups, groups, hrow, rowGroups_intercalate, paramCount, names, Nat.add_zero]

/-- The pattern of a template gives away its literal segments and the places of its parameters. -/
theorem pattern_eq_iff {u : Template} :
    t.pattern = u.pattern ↔ t.segments.map Segment.literal? = u.segments.map Segment.literal? := by
  -- the slashes between segments are the only ones, so a pattern can be split at them
  have hsplit : ∀ v : Template, v.pattern.splitOn (.char '/') = v.segments.map ofSegment := by
    intro v
    rw [pattern, ofSegments_eq_intercalate]
    refine List.splitOn_intercalate _ ?_ (by simpa using v.segments_ne_nil)
    rw [List.forall_mem_map]
    exact fun s hs => s.slash_notMem_ofSegment (v.wellFormed s hs)
  have hmap : ∀ {β : Type} (f : Segment → β), t.segments.map f = u.segments.map f ↔
      List.Forall₂ (fun s s' => f s = f s') t.segments u.segments := by
    intro β f
    rw [← List.forall₂_eq_eq_eq, List.forall₂_map_left_iff, List.forall₂_map_right_iff]
  have hsegments : t.pattern = u.pattern ↔
      t.segments.map ofSegment = u.segments.map ofSegment := by
    constructor
    · intro h
      rw [← hsplit t, ← hsplit u, h]
    · intro h
      rw [pattern, pattern, ofSegments_eq_intercalate, ofSegments_eq_intercalate, h]
  rw [hsegments, hmap, hmap]
  exact ⟨fun h => h.imp fun _ _ => Segment.ofSegment_eq_iff.mp,
    fun h => h.imp fun _ _ => Segment.ofSegment_eq_iff.mpr⟩

/-- **The pattern text denotes the template.**  It is put together from a caret, the texts of the
segments with slashes between them, and a dollar sign.  As a regular expression it is one row of
terms without alternatives: the anchors, the characters of the literal segments as they are, and for
each parameter a group of one or more characters other than a slash; there are no other groups.  Two
templates have one pattern text exactly when they have the same literal segments, and parameters at
the same places. -/
theorem pattern_text_denotes :
    t.pattern.text = '^' :: ['/'].intercalate (t.segments.map Segment.written) ++ ['$'] ∧
      read? t.pattern.text = some [t.terms] ∧ groups [t.terms] = t.paramCount ∧
      ∀ u : Template, t.pattern.text = u.pattern.text ↔
        t.segments.map Segment.literal? = u.segments.map Segment.literal? := by
  refine ⟨t.pattern_text_eq, t.read?_pattern_text, t.groups_terms, fun u => ?_⟩
  rw [text_injective.eq_iff, pattern_eq_iff]

end Template

end RouteTemplate
