import RouteTemplate.Proofs.Percent
import RouteTemplate.Proofs.Supply

/-!
# RouteTemplate.Proofs.RoundTrip — matching the paths that are built

`Template.pathOf` is the path with given texts, each of them encoded.  It matches with these texts
unless one of them is empty (`tryMatch_pathOf`), and every path that is built has this form
(`Supply.build_eq_pathOf_iff`).  So a path that is built matches with the values it was built from
(`match_of_build`).  A match is a source of values itself, and building from it again gives the
canonical form of the path that was matched (`rebuild`).
-/

namespace RouteTemplate

/-! ### Paths with given texts -/

namespace Template

variable (t : Template)

/-- The path with given texts as the values of the parameters. -/
def pathOf (texts : List (List Char)) : List Char := t.filled (texts.map Percent.encode)

theorem slash_notMem_of_mem_map_encode {texts : List (List Char)} :
    ∀ raw ∈ texts.map Percent.encode, '/' ∉ raw := by
  intro raw hr
  obtain ⟨text, -, rfl⟩ := List.mem_map.mp hr
  exact Percent.slash_notMem_encode text

theorem forall_map_encode_ne_nil_iff {texts : List (List Char)} :
    (∀ raw ∈ texts.map Percent.encode, raw ≠ []) ↔ ∀ text ∈ texts, text ≠ [] := by
  rw [List.forall_mem_map]
  exact forall₂_congr fun text _ => not_congr Percent.encode_eq_nil_iff

theorem forall₂_decode_map_encode (texts : List (List Char)) :
    List.Forall₂ (fun raw value => Percent.decode raw = .ok value) (texts.map Percent.encode)
      texts := by
  rw [List.forall₂_map_left_iff, List.forall₂_same]
  exact fun text _ => Percent.decode_encode text

/-- A path with texts that are not empty matches with these texts. -/
theorem tryMatch_pathOf {texts : List (List Char)} (hl : texts.length = t.paramCount)
    (hne : ∀ text ∈ texts, text ≠ []) {ps : Params} (hn : ps.names = t.names)
    (hv : ps.values = texts) : t.tryMatch (t.pathOf texts) = .ok (some ps) := by
  have hc : t.captures (t.pathOf texts) = some (texts.map Percent.encode) :=
    t.captures_filled (by rw [List.length_map, hl]) slash_notMem_of_mem_map_encode
      (forall_map_encode_ne_nil_iff.mpr hne)
  refine (tryMatch_eq_some_iff t).mpr ⟨_, hc, hn, ?_⟩
  rw [hv]
  exact forall₂_decode_map_encode texts

/-- A path with an empty text does not match. -/
theorem isMatch_pathOf_of_nil_mem {texts : List (List Char)} (hl : texts.length = t.paramCount)
    (hnil : [] ∈ texts) : t.isMatch (t.pathOf texts) = false := by
  rw [Bool.eq_false_iff, ne_eq, pathOf, t.isMatch_filled_iff (by rw [List.length_map, hl])
    slash_notMem_of_mem_map_encode, forall_map_encode_ne_nil_iff]
  exact fun h => h [] hnil rfl

theorem captures_eq_none_iff {path : List Char} :
    t.captures path = none ↔ t.isMatch path = false := by
  rw [Bool.eq_false_iff, ne_eq, isMatch_iff_exists_captures, not_exists,
    Option.eq_none_iff_forall_ne_some]

/-- Paths with the same texts only are the same. -/
theorem pathOf_injective {texts texts' : List (List Char)} (hl : texts.length = t.paramCount)
    (hl' : texts'.length = t.paramCount) (h : t.pathOf texts = t.pathOf texts') :
    texts = texts' := by
  have hraw : texts.map Percent.encode = texts'.map Percent.encode :=
    t.filled_injective (by rw [List.length_map, hl]) (by rw [List.length_map, hl'])
      slash_notMem_of_mem_map_encode slash_notMem_of_mem_map_encode h
  exact List.map_injective_iff.mpr (fun _ _ he => Percent.encode_injective he) hraw

end Template

theorem ParamValue.map_encoded (values : List ParamValue) :
    values.map ParamValue.encoded = (values.map ParamValue.text).map Percent.encode := by
  rw [List.map_map]
  rfl

/-- Every path that is built is the path with the texts of the values. -/
theorem Supply.build_eq_pathOf_iff (t : Template) (s : Supply) {path : List Char} :
    s.build t = .ok path ↔ ∃ values : List ParamValue, s.given t = values.map some ∧
      path = t.pathOf (values.map ParamValue.text) := by
  rw [build_eq_ok_iff]
  refine exists_congr fun values => and_congr_right fun _ => ?_
  rw [ParamValue.map_encoded]
  rfl

/-! ### Matching what is built -/

namespace Template

/-- **Building and matching round-trip.**  A path that is built has a value for every parameter; it
matches with the texts of these values, in the order of the template, when none of them is empty,
and it does not match when one of them is. -/
theorem match_of_build (t : Template) (s : Supply) {path : List Char}
    (h : s.build t = .ok path) :
    ∃ values : List ParamValue, s.given t = values.map some ∧
      ((∀ v ∈ values, v.text ≠ []) → ∃ ps : Params, t.tryMatch path = .ok (some ps) ∧
        ps.entries = t.names.zip (values.map ParamValue.text)) ∧
      ((∃ v ∈ values, v.text = []) → t.tryMatch path = .ok none ∧ t.isMatch path = false) := by
  obtain ⟨values, hv, rfl⟩ := (Supply.build_eq_pathOf_iff t s).mp h
  have hl : (values.map ParamValue.text).length = t.paramCount := by
    rw [List.length_map, Supply.length_of_given t s hv]
  refine ⟨values, hv, fun hne => ?_, ?_⟩
  · obtain ⟨ps, hn, hps⟩ := t.exists_params hl
    refine ⟨ps, t.tryMatch_pathOf hl (List.forall_mem_map.mpr hne) hn hps, ?_⟩
    exact List.zip_of_prod hn hps
  · rintro ⟨v, hmem, hnil⟩
    have hm := t.isMatch_pathOf_of_nil_mem hl (hnil ▸ List.mem_map_of_mem hmem)
    exact ⟨t.tryMatch_eq_none_iff.mpr (t.captures_eq_none_iff.mpr hm), hm⟩

/-- The template `/users/:id`. -/
def userPage : Template where
  segments := [.literal [], .literal "users".toList, .param "id".toList]
  segments_ne_nil := by decide
  wellFormed := by decide
  nodup := by decide

theorem match_of_build_userPage :
    userPage.build (.pairs [("id".toList, .value (.str "a/%41".toList))]) =
        .ok "/users/a%2F%2541".toList ∧
      ∃ ps : Params, userPage.tryMatch "/users/a%2F%2541".toList = .ok (some ps) ∧
        ps.entries = [("id".toList, "a/%41".toList)] := by
  have h : (Supply.named (.pairs [("id".toList, .value (.str "a/%41".toList))])).build userPage =
      .ok "/users/a%2F%2541".toList := by decide
  refine ⟨h, ?_⟩
  obtain ⟨values, hv, hne, -⟩ := userPage.match_of_build _ h
  obtain rfl : [.str "a/%41".toList] = values :=
    List.map_injective_iff.mpr (fun _ _ => Option.some.inj) hv
  exact hne (by decide)

end Template

/-! ### Building from a match -/

namespace Params

variable (ps : Params)

theorem get?_of_mem {n v : List Char} (h : (n, v) ∈ ps.entries) : ps.get? n = some v :=
  lookup_eq_some_of_mem ps.nodup h

/-- Every name of a match has one of its values. -/
theorem exists_get?_of_mem_names {n : List Char} (h : n ∈ ps.names) :
    ∃ v ∈ ps.values, ps.get? n = some v := by
  obtain ⟨e, he, rfl⟩ := List.mem_map.mp h
  exact ⟨e.2, List.mem_map_of_mem he, ps.get?_of_mem he⟩

/-- The names look up the values, in order. -/
theorem map_get?_names : ps.names.map ps.get? = ps.values.map some :=
  map_lookup_map_fst ps.nodup

end Params

namespace Template

variable (t : Template)

/-- What a match has: the names of the template, and values that decode and are not empty. -/
theorem params?_spec {path : List Char} {ps : Params} (h : t.params? path = some ps) :
    ∃ raws, t.captures path = some raws ∧ ps.names = t.names ∧
      List.Forall₂ (fun raw value => Percent.decode raw = .ok value) raws ps.values ∧
      ∀ v ∈ ps.values, v ≠ [] := by
  obtain ⟨raws, hc, hn, hv⟩ := t.tryMatch_eq_some_iff.mp (t.params?_eq_some_iff.mp h)
  refine ⟨raws, hc, hn, hv, ?_⟩
  refine forall_mem_of_forall₂ (P := fun raw => raw ≠ []) (Q := fun v => v ≠ []) ?_ hv
    (t.ne_nil_of_captures hc)
  rintro raw v hd hne rfl
  exact hne (Percent.eq_nil_of_decode hd)

/-- A source that gives a text for every name builds the path with these texts. -/
theorem build_eq_pathOf {s : Source} {texts : List (List Char)}
    (h : t.names.map s.value? = texts.map fun x => some (.str x)) :
    t.build s = .ok (t.pathOf texts) := by
  refine (Supply.build_eq_pathOf_iff t (.named s)).mpr ⟨texts.map .str, ?_, ?_⟩
  · rw [Supply.given, h, List.map_map]
    rfl
  · rw [List.map_map, show ParamValue.text ∘ ParamValue.str = id from rfl, List.map_id]

theorem map_value?_params {ps : Params} {names texts : List (List Char)}
    (h : names.map ps.get? = texts.map some) :
    names.map (Source.params ps).value? = texts.map fun x => some (.str x) := by
  have hstr := congrArg (List.map (Option.map ParamValue.str)) h
  rw [List.map_map, List.map_map] at hstr
  exact hstr

/-- A match that has every parameter of a template builds a path with the same values. -/
theorem build_params_of_subset {ps : Params} (hsub : ∀ n ∈ t.names, n ∈ ps.names)
    (hne : ∀ v ∈ ps.values, v ≠ []) :
    ∃ path ps', t.build (.params ps) = .ok path ∧ t.params? path = some ps' ∧
      ps'.names = t.names ∧ ∀ n ∈ t.names, ∃ v, ps'.get? n = some v ∧ ps.get? n = some v := by
  -- the match gives a value for every name of the template, in the order of the template
  let value : List Char → List Char := fun n => (ps.get? n).getD []
  have hvalue : ∀ n ∈ t.names, ps.get? n = some (value n) ∧ value n ≠ [] := by
    intro n hn
    obtain ⟨v, hv, hget⟩ := ps.exists_get?_of_mem_names (hsub n hn)
    have hvn : value n = v := by
      change (ps.get? n).getD [] = v
      rw [hget, Option.getD_some]
    exact ⟨hvn ▸ hget, hvn ▸ hne v hv⟩
  have hget : t.names.map ps.get? = (t.names.map value).map some := by
    rw [List.map_map]
    exact List.map_congr_left fun n hn => (hvalue n hn).1
  have hl : (t.names.map value).length = t.paramCount := List.length_map value
  obtain ⟨ps', hn', hv'⟩ := t.exists_params hl
  refine ⟨_, ps', t.build_eq_pathOf (map_value?_params hget), ?_, hn', fun n hn => ?_⟩
  · refine t.params?_eq_some_iff.mpr (t.tryMatch_pathOf hl ?_ hn' hv')
    exact List.forall_mem_map.mpr fun n hn => (hvalue n hn).2
  · have hget' : t.names.map ps'.get? = t.names.map (some ∘ value) := by
      rw [← hn', ps'.map_get?_names, hv', hn', List.map_map]
    exact ⟨value n, List.map_inj_left.mp hget' n hn, (hvalue n hn).1⟩

/-- A match gives the canonical form of the path that was matched. -/
theorem build_params_self {ps : Params} (hn : ps.names = t.names) :
    t.build (.params ps) = .ok (t.pathOf ps.values) :=
  t.build_eq_pathOf (map_value?_params (hn ▸ ps.map_get?_names))

/-- What is built from a match is what was matched when each captured value is written the way it
is encoded. -/
theorem pathOf_eq_iff {path : List Char} {raws values : List (List Char)}
    (hc : t.captures path = some raws)
    (hv : List.Forall₂ (fun raw value => Percent.decode raw = .ok value) raws values) :
    t.pathOf values = path ↔ ∀ raw ∈ raws, ∃ text, raw = Percent.encode text := by
  have hl := t.length_of_captures hc
  constructor
  · intro h
    have hraws : values.map Percent.encode = raws := by
      refine t.filled_injective ?_ hl slash_notMem_of_mem_map_encode
        (t.slash_notMem_of_captures hc) ?_
      · rw [List.length_map, ← hv.length_eq, hl]
      · rw [t.filled_of_captures hc, ← h, pathOf]
    rw [← hraws]
    exact List.forall_mem_map.mpr fun text _ => ⟨text, rfl⟩
  · intro h
    -- a raw value that is some encoding is the encoding of what it decodes to
    have hboth := (List.forall₂_and_left raws values).mpr ⟨h, hv⟩
    have hraws : List.Forall₂ (· = ·) raws (values.map Percent.encode) := by
      refine List.forall₂_map_right_iff.mpr (hboth.imp ?_)
      rintro raw value ⟨⟨text, rfl⟩, hd⟩
      rw [Percent.decode_encode, Except.ok.injEq] at hd
      rw [hd]
    rw [List.forall₂_eq_eq_eq] at hraws
    rw [pathOf, ← hraws, t.filled_of_captures hc]

/-- **A match can be built from.**  It builds a path of every template whose parameters it has, and
that path matches with the same values.  For the template it comes from the path is canonical: it
matches with the match itself, it is the path that was matched when all values were written the
way they are encoded, and it is shared by the paths with this match and no others. -/
theorem rebuild {path : List Char} {ps : Params} (h : t.params? path = some ps) :
    (∀ u : Template, (∀ n ∈ u.names, n ∈ t.names) →
      ∃ q ps', u.build (.params ps) = .ok q ∧ u.params? q = some ps' ∧ ps'.names = u.names ∧
        ∀ n ∈ u.names, ∃ v, ps'.get? n = some v ∧ ps.get? n = some v) ∧
      ∃ q raws, t.build (.params ps) = .ok q ∧ t.params? q = some ps ∧
        t.captures path = some raws ∧
        (q = path ↔ ∀ raw ∈ raws, ∃ text, raw = Percent.encode text) ∧
        ∀ path' ps' q', t.params? path' = some ps' → t.build (.params ps') = .ok q' →
          (q' = q ↔ ps' = ps) := by
  obtain ⟨raws, hc, hn, hv, hne⟩ := t.params?_spec h
  refine ⟨fun u hsub => u.build_params_of_subset (hn ▸ hsub) hne, ?_⟩
  refine ⟨t.pathOf ps.values, raws, t.build_params_self hn, ?_, hc, t.pathOf_eq_iff hc hv, ?_⟩
  · exact t.params?_eq_some_iff.mpr (t.tryMatch_pathOf (t.length_values hn) hne hn rfl)
  · intro path' ps' q' h' hq'
    obtain ⟨-, -, hn', -⟩ := t.params?_spec h'
    rw [t.build_params_self hn', Except.ok.injEq] at hq'
    constructor
    · intro hqq
      have hvalues : ps'.values = ps.values :=
        t.pathOf_injective (t.length_values hn') (t.length_values hn) (hq'.trans hqq)
      refine Params.ext ?_
      rw [List.zip_of_prod (hn'.trans hn.symm) hvalues]
      exact (List.zip_of_prod rfl rfl).symm
    · rintro rfl
      exact hq'.symm

theorem rebuild_userPage :
    ∃ ps : Params, userPage.params? "/users/%61b".toList = some ps ∧
      ∃ q, userPage.build (.params ps) = .ok q ∧ q ≠ "/users/%61b".toList ∧
        userPage.params? q = some ps := by
  let ps : Params := ⟨[("id".toList, "ab".toList)], by decide⟩
  have h : userPage.params? "/users/%61b".toList = some ps := by decide +kernel
  obtain ⟨-, q, -, hq, hm, -, -, -⟩ := userPage.rebuild h
  refine ⟨ps, h, q, hq, ?_, hm⟩
  have hb : userPage.build (.params ps) = .ok "/users/ab".toList := by decide
  rw [hb] at hq
  cases hq
  decide

end Template

end RouteTemplate
