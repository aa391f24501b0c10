import RouteTemplate.Build
import RouteTemplate.Proofs.Filling
import RouteTemplate.Proofs.Percent

/-!
# RouteTemplate.Proofs.Supply — values for a path

Values for a path are looked up by name in a source or taken one by one in the order of the
parameters.  Both ways each parameter in its turn is given a value or none (`Supply.given`), and the
path depends on nothing else: it is filled with the encoded texts, or it is refused on account of
the first parameter without a value (`Supply.build_eq`).  As the names of a template differ, values
in order build what the pairs of names and values build (`Template.buildInOrder_eq_build`).
-/

namespace RouteTemplate

/-- How the values for a path are supplied. -/
inductive Supply where
  /-- By name. -/
  | named (source : Source)
  /-- One by one, in the order of the parameters. -/
  | inOrder (values : List Argument)

namespace Supply

/-- The path that a template builds, or the first parameter that has no value. -/
def build (t : Template) : Supply → Except BuildError (List Char)
  | .named source => t.build source
  | .inOrder values => t.buildInOrder values

/-- The value that each parameter is given, in the order of the template. -/
def given (t : Template) : Supply → List (Option ParamValue)
  | .named source => t.names.map source.value?
  | .inOrder values => (List.range t.paramCount).map fun i => values[i]?.bind Argument.value?

end Supply

/-- The first of the names that is not given a value. -/
def firstMissing (names : List (List Char)) (given : List (Option ParamValue)) :
    Option (List Char) :=
  ((names.zip given).find? fun e => e.2.isNone).map Prod.fst

/-- The segments filled with the encoded values, unless a parameter is not given one. -/
def fillGiven (ss : List Segment) (given : List (Option ParamValue)) :
    Except BuildError (List (List Char)) :=
  match firstMissing (paramNames ss) given with
  | some n => .error ⟨n⟩
  | none => .ok (fill ss ((given.filterMap id).map ParamValue.encoded))

/-! ### Look-ups -/

theorem lookup_eq_some_of_mem {α : Type} {es : List (List Char × α)}
    (hd : (es.map Prod.fst).Nodup) {n : List Char} {v : α} (h : (n, v) ∈ es) :
    es.lookup n = some v := by
  induction es with
  | nil => exact absurd h List.not_mem_nil
  | cons e es ih =>
    rw [List.map_cons, List.nodup_cons] at hd
    obtain ⟨m, w⟩ := e
    rcases List.mem_cons.mp h with he | he
    · cases he
      rw [List.lookup_cons_self]
    · have hne : n ≠ m := by
        rintro rfl
        exact hd.1 (List.mem_map.mpr ⟨(n, v), he, rfl⟩)
      rw [List.lookup_cons, beq_eq_false_iff_ne.mpr hne, ih hd.2 he]

theorem lookup_eq_some_iff_mem {α : Type} {es : List (List Char × α)}
    (hd : (es.map Prod.fst).Nodup) {n : List Char} {v : α} :
    es.lookup n = some v ↔ (n, v) ∈ es := by
  constructor
  · intro h
    obtain ⟨before, after, rfl, -⟩ := List.lookup_eq_some_iff.mp h
    exact List.mem_append_right _ List.mem_cons_self
  · exact lookup_eq_some_of_mem hd

/-- Among different names paired with values, each name looks up the value at its own place, if the
values reach that far. -/
theorem lookup_zip_getElem {α : Type} {names : List (List Char)} (hd : names.Nodup)
    (values : List α) {i : Nat} (hi : i < names.length) :
    (names.zip values).lookup names[i] = values[i]? := by
  induction names generalizing values i with
  | nil => exact absurd hi (Nat.not_lt_zero i)
  | cons n names ih =>
    obtain ⟨hn, hd⟩ := List.nodup_cons.mp hd
    cases values with
    | nil => rfl
    | cons v values =>
      cases i with
      | zero => exact List.lookup_cons_self
      | succ i =>
        have hi : i < names.length := Nat.lt_of_succ_lt_succ hi
        have hne : names[i] ≠ n := fun h => hn (h ▸ List.getElem_mem hi)
        rw [List.zip_cons_cons, List.getElem_cons_succ, List.getElem?_cons_succ, List.lookup_cons,
          beq_eq_false_iff_ne.mpr hne]
        exact ih hd values hi

/-- The keys of entries, if they differ, look up the values in order. -/
theorem map_lookup_map_fst {α : Type} {es : List (List Char × α)} (hd : (es.map Prod.fst).Nodup) :
    (es.map Prod.fst).map (fun n => es.lookup n) = (es.map Prod.snd).map some := by
  rw [List.map_map, List.map_map]
  exact List.map_congr_left fun e he => lookup_eq_some_of_mem hd he

/-! ### Segment by segment -/

theorem fillGiven_literal (t : List Char) (ss : List Segment) (given : List (Option ParamValue)) :
    fillGiven (.literal t :: ss) given = (fillGiven ss given).map (t :: ·) := by
  rw [fillGiven, fillGiven, paramNames_literal_cons, fill]
  cases firstMissing (paramNames ss) given <;> rfl

theorem fillGiven_param_none (n : List Char) (ss : List Segment)
    (given : List (Option ParamValue)) :
    fillGiven (.param n :: ss) (none :: given) = .error ⟨n⟩ := by
  rw [fillGiven, paramNames_param_cons, firstMissing, List.zip_cons_cons,
    List.find?_cons_of_pos rfl]
  rfl

theorem fillGiven_param_some (n : List Char) (v : ParamValue) (ss : List Segment)
    (given : List (Option ParamValue)) :
    fillGiven (.param n :: ss) (some v :: given) = (fillGiven ss given).map (v.encoded :: ·) := by
  rw [fillGiven, fillGiven, paramNames_param_cons, firstMissing, List.zip_cons_cons,
    List.find?_cons_of_neg (by simp), ← firstMissing]
  rw [show (some v :: given).filterMap id = v :: given.filterMap id from rfl, List.map_cons, fill]
  cases firstMissing (paramNames ss) given <;> rfl

theorem fillByName_eq (value? : List Char → Option ParamValue) (ss : List Segment) :
    fillByName value? ss = fillGiven ss ((paramNames ss).map value?) := by
  induction ss with
  | nil => rfl
  | cons s ss ih =>
    cases s with
    | literal t =>
      rw [fillByName, ih, paramNames_literal_cons, fillGiven_literal]
      cases fillGiven ss ((paramNames ss).map value?) <;> rfl
    | param n =>
      rw [fillByName, ih, paramNames_param_cons, List.map_cons]
      cases value? n with
      | none => rw [fillGiven_param_none]
      | some v =>
        rw [fillGiven_param_some]
        cases fillGiven ss ((paramNames ss).map value?) <;> rfl

theorem fillInOrder_eq (ss : List Segment) (values : List Argument) :
    fillInOrder ss values = fillGiven ss
      ((List.range (paramNames ss).length).map fun i => values[i]?.bind Argument.value?) := by
  induction ss generalizing values with
  | nil => rfl
  | cons s ss ih =>
    cases s with
    | literal t =>
      rw [fillInOrder, ih, paramNames_literal_cons, fillGiven_literal]
      generalize fillGiven ss _ = r
      cases r <;> rfl
    | param n =>
      rw [paramNames_param_cons, List.length_cons, List.range_succ_eq_map, List.map_cons,
        List.map_map]
      cases values with
      | nil => rw [fillInOrder, List.getElem?_nil, Option.bind_none, fillGiven_param_none]
      | cons a values =>
        rw [fillInOrder, ih, List.getElem?_cons_zero, Option.bind_some]
        cases a.value? with
        | none => rw [fillGiven_param_none]
        | some v =>
          rw [fillGiven_param_some]
          change _ = (fillGiven ss ((List.range (paramNames ss).length).map fun i =>
            values[i]?.bind Argument.value?)).map _
          generalize fillGiven ss _ = r
          cases r <;> rfl

/-! ### Building -/

namespace Supply

variable (t : Template) (s : Supply)

@[simp] theorem length_given : (s.given t).length = t.paramCount := by
  cases s <;> simp [given, Template.paramCount]

theorem length_of_given {values : List ParamValue} (h : s.given t = values.map some) :
    values.length = t.paramCount := by
  rw [← length_given t s, h, List.length_map]

/-- Arguments in order reach the parameters. -/
theorem given_inOrder {args : List Argument} (hl : args.length = t.paramCount) :
    (inOrder args).given t = args.map Argument.value? := by
  refine List.ext_getElem? fun i => ?_
  rw [given, ← hl, List.getElem?_map, List.getElem?_map]
  rcases Nat.lt_or_ge i args.length with hi | hi
  · rw [List.getElem?_range hi, List.getElem?_eq_getElem hi]
    simp [List.getElem?_eq_getElem hi]
  · rw [List.getElem?_eq_none hi, List.getElem?_eq_none (by rw [List.length_range]; exact hi)]
    rfl

/-- Arguments under the names of the parameters, as many as there are names for, reach the same
parameters as the arguments in order. -/
theorem given_pairs_zip (values : List Argument) :
    (named (.pairs (t.names.zip values))).given t = (inOrder values).given t := by
  have hd : t.names.Nodup := t.nodup
  refine List.ext_getElem (by rw [length_given, length_given]) fun i hi _ => ?_
  rw [length_given, Template.paramCount] at hi
  simp only [given, List.getElem_map, List.getElem_range, Source.value?]
  rw [lookup_zip_getElem hd values hi]

/-- Arguments under the names of the parameters reach the parameters. -/
theorem given_pairs {args : List Argument} (hl : args.length = t.paramCount) :
    (named (.pairs (t.names.zip args))).given t = args.map Argument.value? := by
  rw [given_pairs_zip, given_inOrder t hl]

/-- Values beyond the last parameter reach none. -/
theorem given_inOrder_take (values : List Argument) :
    (inOrder (values.take t.paramCount)).given t = (inOrder values).given t := by
  refine List.map_congr_left fun i hi => ?_
  rw [List.getElem?_take_of_lt (List.mem_range.mp hi)]

/-- A path is filled with the encoded values, unless a parameter is not given one. -/
theorem build_eq :
    s.build t =
      match firstMissing t.names (s.given t) with
      | some n => .error ⟨n⟩
      | none => .ok (t.filled (((s.given t).filterMap id).map ParamValue.encoded)) := by
  have hfill : s.build t = (fillGiven t.segments (s.given t)).map joinPieces := by
    cases s with
    | named source =>
      rw [build, Template.build, fillByName_eq]
      change _ = (fillGiven t.segments (t.names.map source.value?)).map joinPieces
      rw [Template.names]
      cases fillGiven t.segments ((paramNames t.segments).map source.value?) <;> rfl
    | inOrder values =>
      rw [build, Template.buildInOrder, fillInOrder_eq, given, Template.paramCount, Template.names]
      generalize fillGiven t.segments _ = r
      cases r <;> rfl
  rw [hfill, fillGiven, Template.names]
  cases firstMissing (paramNames t.segments) (s.given t) <;> rfl

/-- Only what the parameters are given counts. -/
theorem build_eq_of_given_eq {s s' : Supply} (h : s.given t = s'.given t) :
    s.build t = s'.build t := by
  rw [build_eq, build_eq, h]

theorem eq_map_some_filterMap {α : Type} {given : List (Option α)} (h : ∀ o ∈ given, o ≠ none) :
    given = (given.filterMap id).map some := by
  rw [List.map_filterMap_some_eq_filter_map_isSome, List.map_id, List.filter_eq_self.mpr]
  intro o ho
  exact Option.isSome_iff_ne_none.mpr (h o ho)

/-- No name is missing when every one is given a value. -/
theorem firstMissing_eq_none_iff {names : List (List Char)} {given : List (Option ParamValue)}
    (hl : given.length = names.length) :
    firstMissing names given = none ↔ ∃ values : List ParamValue, given = values.map some := by
  rw [firstMissing, Option.map_eq_none_iff, List.find?_eq_none]
  constructor
  · intro h
    refine ⟨given.filterMap id, eq_map_some_filterMap fun o ho hnone => ?_⟩
    obtain ⟨i, hi, rfl⟩ := List.getElem_of_mem ho
    have hz : i < (names.zip given).length := by rw [List.length_zip]; omega
    refine h _ (List.getElem_mem hz) ?_
    rw [List.getElem_zip, hnone]
    rfl
  · rintro ⟨values, rfl⟩ ⟨n, o⟩ he
    obtain ⟨v, -, rfl⟩ := List.mem_map.mp (List.of_mem_zip he).2
    simp

/-- There is a path when every parameter is given a value. -/
theorem build_eq_ok_iff {path : List Char} :
    s.build t = .ok path ↔
      ∃ values : List ParamValue, s.given t = values.map some ∧
        path = t.filled (values.map ParamValue.encoded) := by
  rw [build_eq]
  cases hm : firstMissing t.names (s.given t) with
  | some n =>
    refine ⟨fun h => by simp at h, ?_⟩
    rintro ⟨values, hv, -⟩
    have hn := (firstMissing_eq_none_iff (length_given t s)).mpr ⟨values, hv⟩
    rw [hm] at hn
    cases hn
  | none =>
    obtain ⟨values, hv⟩ := (firstMissing_eq_none_iff (length_given t s)).mp hm
    have hid : (values.map some).filterMap id = values := by simp
    rw [hv, hid, Except.ok.injEq]
    constructor
    · rintro rfl
      exact ⟨values, rfl, rfl⟩
    · rintro ⟨values', hv', rfl⟩
      rw [List.map_injective_iff.mpr (fun _ _ => Option.some.inj) hv']

end Supply

/-- **Values in order are values by name.**  However many values there are and wherever one of them
is absent, taking them one by one builds what a list builds that pairs them with the names of the
parameters as far as both reach: the same path, or a refusal on account of the same parameter.
Values beyond the last parameter make no difference. -/
theorem Template.buildInOrder_eq_build (t : Template) (values : List Argument) :
    t.buildInOrder values = t.build (.pairs (t.names.zip values)) ∧
      t.buildInOrder (values.take t.paramCount) = t.buildInOrder values := by
  constructor
  · exact Supply.build_eq_of_given_eq t (Supply.given_pairs_zip t values).symm
  · exact Supply.build_eq_of_given_eq t (Supply.given_inOrder_take t values)

end RouteTemplate
