import Mathlib.Data.List.Induction
import RouteTemplate.Proofs.Missing

/-!
# RouteTemplate.Proofs.Precedence — which of several values counts

In a list of pairs the first pair of a name counts, in a map the last one that was inserted
(`NameMap.get?_ofList`).  So a list builds what a map builds that was filled with its pairs in
reverse order, and where no name is repeated the order of the pairs does not matter at all
(`build_precedence`).
-/

namespace RouteTemplate

/-! ### Look-ups -/

section Lookup

variable {α : Type} {es es' : List (List Char × α)}

/-- Entries whose names differ may come in any order. -/
theorem lookup_eq_of_perm (h : es.Perm es') (hd : (es.map Prod.fst).Nodup) (n : List Char) :
    es.lookup n = es'.lookup n := by
  have hd' : (es'.map Prod.fst).Nodup := (h.map Prod.fst).nodup_iff.mp hd
  refine Option.ext fun v => ?_
  rw [lookup_eq_some_iff_mem hd, lookup_eq_some_iff_mem hd', h.mem_iff]

/-- Without the entries of one name every other name is looked up as before. -/
theorem lookup_filter_ne (es : List (List Char × α)) (name n : List Char) :
    (es.filter fun e => e.1 ≠ name).lookup n = if n = name then none else es.lookup n := by
  induction es with
  | nil => simp
  | cons e es ih =>
    by_cases he : e.1 = name
    · rw [List.filter_cons_of_neg (by simpa using he), ih, List.lookup_cons, he]
      by_cases hn : n = name
      · rw [if_pos hn, if_pos hn]
      · rw [if_neg hn, if_neg hn, beq_eq_false_iff_ne.mpr hn]
    · rw [List.filter_cons_of_pos (by simpa using he), List.lookup_cons, List.lookup_cons, ih]
      by_cases hn : n = name
      · rw [if_pos hn, if_pos hn, hn, beq_eq_false_iff_ne.mpr (Ne.symm he)]
      · rw [if_neg hn, if_neg hn]

end Lookup

/-! ### Maps -/

namespace NameMap

variable {α : Type}

theorem ofList_concat (ps : List (List Char × α)) (p : List Char × α) :
    ofList (ps ++ [p]) = (ofList ps).insert p.1 p.2 := by
  rw [ofList, List.foldl_append]
  rfl

/-- In a map the last pair of a name counts. -/
theorem get?_ofList (ps : List (List Char × α)) (n : List Char) :
    (ofList ps).get? n = ps.reverse.lookup n := by
  -- from the end of the list: the last insertion is what the reversed list is asked first
  induction ps using List.reverseRecOn with
  | nil => rfl
  | append_singleton ps p ih =>
    rw [ofList_concat, get?_insert, ih, List.reverse_concat, List.lookup_cons]
    by_cases hn : n = p.1
    · rw [if_pos hn, beq_iff_eq.mpr hn]
    · rw [if_neg hn, beq_eq_false_iff_ne.mpr hn]

/-- A map into which pairs were inserted in order, whatever order it keeps its entries in. -/
def FilledBy (m : NameMap α) (ps : List (List Char × α)) : Prop :=
  m.entries.Perm (ofList ps).entries

variable {m : NameMap α} {ps : List (List Char × α)}

theorem filledBy_ofList (ps : List (List Char × α)) : (ofList ps).FilledBy ps := .refl _

theorem nodup_sorted (m : NameMap α) : (m.sorted.map Prod.fst).Nodup :=
  ((List.mergeSort_perm _ _).map Prod.fst).nodup_iff.mpr m.nodup

/-- A map that keeps its entries in the order of their names. -/
theorem filledBy_of_sorted (h : m.entries = (ofList ps).sorted) : m.FilledBy ps := by
  rw [FilledBy, h]
  exact List.mergeSort_perm _ _

theorem FilledBy.get?_eq (h : m.FilledBy ps) (n : List Char) :
    m.get? n = ps.reverse.lookup n := by
  rw [← get?_ofList]
  exact lookup_eq_of_perm h m.nodup n

end NameMap

/-! ### Values turned at once -/

theorem Argument.value?_of_converted? {a : Argument} {v : ParamValue} (h : a.converted? = some v) :
    a.value? = some v := by
  cases a with
  | scalar s => exact h
  | value w => exact h
  | absent => cases h
  | present a => cases h

/-- Arguments that can be turned into values at once leave every name its value. -/
theorem Source.exists_ofConverted? {ps : List (List Char × Argument)}
    (h : ∀ p ∈ ps, p.2.converted? ≠ none) :
    ∃ s, ofConverted? ps = some s ∧ ∀ n, s.value? n = (pairs ps).value? n := by
  suffices hpairs : ∃ converted, convertPairs? ps = some converted ∧
      ∀ n, (pairs converted).value? n = (pairs ps).value? n by
    obtain ⟨converted, hc, hv⟩ := hpairs
    exact ⟨.pairs converted, by rw [ofConverted?, hc, Option.map_some], hv⟩
  induction ps with
  | nil => exact ⟨[], rfl, fun _ => rfl⟩
  | cons p ps ih =>
    rw [List.forall_mem_cons] at h
    obtain ⟨converted, hc, hv⟩ := ih h.2
    obtain ⟨v, hpv⟩ := Option.ne_none_iff_exists'.mp h.1
    refine ⟨(p.1, .value v) :: converted, by rw [convertPairs?, hpv, hc], fun n => ?_⟩
    rw [value?, value?, List.lookup_cons, List.lookup_cons]
    cases n == p.1 with
    | true => exact (Argument.value?_of_converted? hpv).symm
    | false => exact hv n

/-! ### Building -/

namespace Template

variable (t : Template)

/-- Sources that give the parameters the same values build the same. -/
theorem build_eq_of_value?_eq {s s' : Source} (h : ∀ n ∈ t.names, s.value? n = s'.value? n) :
    t.build s = t.build s' := by
  refine t.build_eq_of_text?_eq fun n hn => ?_
  rw [Source.text?, Source.text?, h n hn]

/-- A map builds what its pairs build from the last to the first. -/
theorem build_map_eq {m : NameMap Argument} {ps : List (List Char × Argument)}
    (h : m.FilledBy ps) : t.build (.map m) = t.build (.pairs ps.reverse) := by
  refine t.build_eq_of_value?_eq fun n _ => ?_
  rw [Source.value?, Source.value?, h.get?_eq]

theorem build_pairs_perm {ps ps' : List (List Char × Argument)} (h : ps.Perm ps')
    (hd : (ps.map Prod.fst).Nodup) : t.build (.pairs ps) = t.build (.pairs ps') := by
  refine t.build_eq_of_value?_eq fun n _ => ?_
  rw [Source.value?, Source.value?, lookup_eq_of_perm h hd]

/-- An absent value hides all later pairs of its name. -/
theorem build_pairs_absent {before : List (List Char × Argument)} {n : List Char} {a : Argument}
    (hbefore : ∀ p ∈ before, p.1 ≠ n) (ha : a.IsAbsent) (after : List (List Char × Argument)) :
    (Source.pairs (before ++ (n, a) :: after)).Lacks n ∧
      t.build (.pairs (before ++ (n, a) :: after)) =
        t.build (.pairs ((before ++ (n, a) :: after).filter fun p => p.1 ≠ n)) := by
  have hlookup : (before ++ (n, a) :: after).lookup n = some a :=
    List.lookup_eq_some_iff.mpr
      ⟨before, after, rfl, fun p hp => bne_iff_ne.mpr (Ne.symm (hbefore p hp))⟩
  have hlacks : (Source.pairs (before ++ (n, a) :: after)).Lacks n := by
    intro b hb
    rw [Source.argument?, hlookup, Option.some.injEq] at hb
    exact hb ▸ ha
  refine ⟨hlacks, t.build_eq_of_value?_eq fun m _ => ?_⟩
  by_cases hm : m = n
  · rw [hm, Source.value?_eq_none_iff.mpr hlacks, Source.value?, lookup_filter_ne, if_pos rfl]
    rfl
  · rw [Source.value?, Source.value?, lookup_filter_ne, if_neg hm]

/-- **Lists and maps have mirror-image precedence.**  A list builds what a map builds that was
filled with its pairs in reverse order.  An absent value in the first pair of a name hides the later
pairs of the name, so that there is no path if the name is a parameter.  Where no name is repeated,
every order of the pairs and every map of them builds the same; and so do pairs whose values are
turned at once, where they all can be. -/
theorem build_precedence (ps : List (List Char × Argument)) :
    (∀ m : NameMap Argument, m.FilledBy ps.reverse → t.build (.map m) = t.build (.pairs ps)) ∧
      (∀ before n a after, ps = before ++ (n, a) :: after → (∀ p ∈ before, p.1 ≠ n) →
        a.IsAbsent →
          t.build (.pairs ps) = t.build (.pairs (ps.filter fun p => p.1 ≠ n)) ∧
            (n ∈ t.names → ∀ path, t.build (.pairs ps) ≠ .ok path)) ∧
      ((ps.map Prod.fst).Nodup → ∀ ps', ps'.Perm ps →
        t.build (.pairs ps') = t.build (.pairs ps) ∧
          ∀ m : NameMap Argument, m.FilledBy ps' → t.build (.map m) = t.build (.pairs ps)) ∧
      ((∀ p ∈ ps, p.2.converted? ≠ none) →
        ∃ s, Source.ofConverted? ps = some s ∧ t.build s = t.build (.pairs ps)) := by
  refine ⟨fun m hm => ?_, ?_, fun hd ps' hp => ⟨?_, fun m hm => ?_⟩, fun h => ?_⟩
  · rw [t.build_map_eq hm, List.reverse_reverse]
  · rintro before n a after rfl hbefore ha
    obtain ⟨hlacks, hbuild⟩ := t.build_pairs_absent hbefore ha after
    exact ⟨hbuild, fun hn path hpath => t.not_lacks_of_build_eq_ok _ hpath n hn hlacks⟩
  · exact (t.build_pairs_perm hp.symm hd).symm
  · rw [t.build_map_eq hm]
    exact (t.build_pairs_perm ((ps'.reverse_perm.trans hp).symm) hd).symm
  · obtain ⟨s, hs, hv⟩ := Source.exists_ofConverted? h
    exact ⟨s, hs, t.build_eq_of_value?_eq fun n _ => hv n⟩

/-- A repeated name in a list and in a map, an absent value in front of another one, two names in a
map that keeps them in order, and values that are turned at once. -/
theorem build_precedence_userPage :
    userPage.build (.ofInserts [("id".toList, .absent), ("id".toList, .value (.uint 7))]) =
        userPage.build (.pairs [("id".toList, .value (.uint 7)), ("id".toList, .absent)]) ∧
      (∀ path, userPage.build (.pairs [("id".toList, .absent), ("id".toList, .value (.uint 7))]) ≠
        .ok path) ∧
      (∃ m : NameMap Argument,
        m.entries = (NameMap.ofList [("page".toList, Argument.value (.uint 1)),
          ("id".toList, .value (.uint 7))]).sorted ∧
          userPage.build (.map m) = userPage.build
            (.pairs [("id".toList, .value (.uint 7)), ("page".toList, .value (.uint 1))])) ∧
      ∃ s, Source.ofConverted? [("id".toList, .scalar (.bool false))] = some s ∧
        userPage.build s = userPage.build (.pairs [("id".toList, .scalar (.bool false))]) := by
  refine ⟨?_, ?_, ?_, ?_⟩
  · obtain ⟨hmap, -, -, -⟩ := userPage.build_precedence
      [("id".toList, .value (.uint 7)), ("id".toList, .absent)]
    exact hmap _ (NameMap.filledBy_ofList _)
  · obtain ⟨-, habsent, -, -⟩ := userPage.build_precedence
      [("id".toList, .absent), ("id".toList, .value (.uint 7))]
    exact (habsent [] _ .absent _ rfl (List.forall_mem_nil _) .absent).2 List.mem_cons_self
  · obtain ⟨-, -, hperm, -⟩ := userPage.build_precedence
      [("id".toList, .value (.uint 7)), ("page".toList, .value (.uint 1))]
    obtain ⟨-, hmap⟩ := hperm (by decide)
      [("page".toList, .value (.uint 1)), ("id".toList, .value (.uint 7))] (.swap _ _ _)
    exact ⟨⟨_, NameMap.nodup_sorted _⟩, rfl, hmap _ (NameMap.filledBy_of_sorted rfl)⟩
  · obtain ⟨-, -, -, hconverted⟩ := userPage.build_precedence [("id".toList, .scalar (.bool false))]
    refine hconverted fun p hp => ?_
    obtain rfl := List.mem_singleton.mp hp
    exact Option.some_ne_none _

end Template

end RouteTemplate
