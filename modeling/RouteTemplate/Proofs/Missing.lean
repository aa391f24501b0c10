import RouteTemplate.Proofs.RoundTrip

/-!
# RouteTemplate.Proofs.Missing — what a path depends on

A source lacks a name when it holds nothing under it, or an argument that is absent at some depth.
Building asks a source for the texts of the template's own parameters and for nothing else
(`build_eq_firstLacking?`).  It is refused on account of the first parameter that the source lacks,
however poor the values of the others are, and two sources that agree on the parameters build alike
(`build_outcome`).
-/

namespace RouteTemplate

/-- Optional arguments that have no content at some depth. -/
inductive Argument.IsAbsent : Argument → Prop where
  | absent : IsAbsent .absent
  | present {a : Argument} (h : IsAbsent a) : IsAbsent (.present a)

theorem Argument.value?_eq_none_iff {a : Argument} : a.value? = none ↔ a.IsAbsent := by
  induction a with
  | scalar s => exact ⟨fun h => (Option.some_ne_none _ h).elim, fun h => nomatch h⟩
  | value v => exact ⟨fun h => (Option.some_ne_none _ h).elim, fun h => nomatch h⟩
  | absent => exact ⟨fun _ => .absent, fun _ => rfl⟩
  | present a ih =>
    rw [value?_present, ih]
    constructor
    · exact .present
    · rintro (_ | h)
      exact h

/-! ### What a source holds -/

namespace Source

/-- The argument that a source holds under a name. -/
def argument? : Source → List Char → Option Argument
  | .nothing, _ => none
  | .pairs ps, name => ps.lookup name
  | .map m, name => m.get? name
  | .params p, name => (p.get? name).map fun text => .value (.str text)

/-- A source lacks a name under which it holds nothing or an absent argument. -/
def Lacks (s : Source) (name : List Char) : Prop :=
  ∀ a, s.argument? name = some a → a.IsAbsent

/-- Two sources agree on a name that both lack, or for which their values have one text. -/
def Agree (s s' : Source) (name : List Char) : Prop :=
  (s.Lacks name ∧ s'.Lacks name) ∨
    ∃ v v', s.value? name = some v ∧ s'.value? name = some v' ∧ v.text = v'.text

/-- The text that a source gives for a name. -/
def text? (s : Source) (name : List Char) : Option (List Char) :=
  (s.value? name).map ParamValue.text

variable {s s' : Source} {name : List Char}

theorem value?_eq_bind (s : Source) (name : List Char) :
    s.value? name = (s.argument? name).bind Argument.value? := by
  cases s with
  | nothing => rfl
  | pairs ps => rfl
  | map m => rfl
  | params p =>
    rw [value?, argument?]
    cases p.get? name <;> rfl

theorem value?_eq_none_iff : s.value? name = none ↔ s.Lacks name := by
  rw [value?_eq_bind, Option.bind_eq_none_iff]
  exact forall₂_congr fun a _ => Argument.value?_eq_none_iff

theorem text?_eq_none_iff : s.text? name = none ↔ s.Lacks name := by
  rw [text?, Option.map_eq_none_iff, value?_eq_none_iff]

/-- Sources agree on a name when they give one text for it, or both none. -/
theorem agree_iff : s.Agree s' name ↔ s.text? name = s'.text? name := by
  constructor
  · rintro (⟨h, h'⟩ | ⟨v, v', hv, hv', ht⟩)
    · rw [text?_eq_none_iff.mpr h, text?_eq_none_iff.mpr h']
    · rw [text?, text?, hv, hv', Option.map_some, Option.map_some, ht]
  · intro h
    cases hv : s.value? name with
    | none =>
      have hlacks : s.Lacks name := value?_eq_none_iff.mp hv
      exact .inl ⟨hlacks, text?_eq_none_iff.mp (h ▸ text?_eq_none_iff.mpr hlacks)⟩
    | some v =>
      rw [text?, text?, hv, Option.map_some] at h
      obtain ⟨v', hv', ht⟩ := Option.map_eq_some_iff.mp h.symm
      exact .inr ⟨v, v', hv, hv', ht.symm⟩

/-! ### The first name that a source lacks -/

/-- The first of the names that a source lacks. -/
def firstLacking? (s : Source) (names : List (List Char)) : Option (List Char) :=
  names.find? fun n => (s.text? n).isNone

theorem isNone_text?_iff : (s.text? name).isNone = true ↔ s.Lacks name :=
  Option.isNone_iff_eq_none.trans text?_eq_none_iff

variable {names : List (List Char)}

theorem firstLacking?_eq_none_iff : s.firstLacking? names = none ↔ ∀ n ∈ names, ¬ s.Lacks n := by
  rw [firstLacking?, List.find?_eq_none]
  exact forall₂_congr fun n _ => not_congr isNone_text?_iff

theorem firstLacking?_eq_some_iff :
    s.firstLacking? names = some name ↔
      ∃ before after, names = before ++ name :: after ∧ (∀ n ∈ before, ¬ s.Lacks n) ∧
        s.Lacks name := by
  rw [firstLacking?, List.find?_eq_some_iff_append, isNone_text?_iff]
  simp only [Bool.not_eq_true', ← Bool.not_eq_true, isNone_text?_iff]
  constructor
  · rintro ⟨hlacks, before, after, hnames, hbefore⟩
    exact ⟨before, after, hnames, hbefore, hlacks⟩
  · rintro ⟨before, after, hnames, hbefore, hlacks⟩
    exact ⟨hlacks, before, after, hnames, hbefore⟩

theorem firstLacking?_congr (h : ∀ n ∈ names, s.text? n = s'.text? n) :
    s.firstLacking? names = s'.firstLacking? names := by
  rw [firstLacking?, firstLacking?, ← List.head?_filter, ← List.head?_filter,
    List.filter_congr fun n hn => by rw [h n hn]]

theorem firstMissing_map_value? (s : Source) (names : List (List Char)) :
    firstMissing names (names.map s.value?) = s.firstLacking? names := by
  induction names with
  | nil => rfl
  | cons n names ih =>
    rw [List.map_cons, firstMissing, List.zip_cons_cons, List.find?_cons, firstLacking?,
      List.find?_cons, text?]
    cases s.value? n with
    | none => rfl
    | some v => exact ih

end Source

/-! ### Building -/

namespace Template

variable (t : Template) (s : Source)

/-- A path has the texts that the source gives for the parameters, unless it lacks one. -/
theorem build_eq_firstLacking? :
    t.build s =
      match s.firstLacking? t.names with
      | some n => .error ⟨n⟩
      | none => .ok (t.pathOf (t.names.filterMap s.text?)) := by
  have htexts : (((Supply.named s).given t).filterMap id).map ParamValue.encoded =
      (t.names.filterMap s.text?).map Percent.encode := by
    rw [ParamValue.map_encoded, Supply.given, List.filterMap_map, List.map_filterMap]
    rfl
  have hbuild : t.build s = (Supply.named s).build t := rfl
  rw [hbuild, Supply.build_eq, htexts, Supply.given, Source.firstMissing_map_value?]
  rfl

/-- Building asks for nothing but the texts of the parameters. -/
theorem build_eq_of_text?_eq {s s' : Source} (h : ∀ n ∈ t.names, s.text? n = s'.text? n) :
    t.build s = t.build s' := by
  rw [build_eq_firstLacking?, build_eq_firstLacking?, Source.firstLacking?_congr h,
    List.filterMap_congr h]

theorem build_eq_error_iff {e : BuildError} :
    t.build s = .error e ↔ s.firstLacking? t.names = some e.name := by
  obtain ⟨name⟩ := e
  rw [build_eq_firstLacking?]
  cases s.firstLacking? t.names <;> simp

/-- There is a path when the source lacks no parameter, and it has the texts that the source
gives. -/
theorem build_of_forall_not_lacks (h : ∀ n ∈ t.names, ¬ s.Lacks n) :
    ∃ texts : List (List Char), t.names.map s.text? = texts.map some ∧
      t.build s = .ok (t.pathOf texts) := by
  refine ⟨t.names.filterMap s.text?, ?_, ?_⟩
  · have hsome : ∀ o ∈ t.names.map s.text?, o ≠ none :=
      List.forall_mem_map.mpr fun n hn => mt Source.text?_eq_none_iff.mp (h n hn)
    have htexts := Supply.eq_map_some_filterMap hsome
    rwa [List.filterMap_map, Function.id_comp] at htexts
  · rw [build_eq_firstLacking?, Source.firstLacking?_eq_none_iff.mpr h]

theorem not_lacks_of_build_eq_ok {path : List Char} (h : t.build s = .ok path) :
    ∀ n ∈ t.names, ¬ s.Lacks n := by
  rw [← Source.firstLacking?_eq_none_iff, Option.eq_none_iff_forall_ne_some]
  intro n hn
  have herror : t.build s = .error ⟨n⟩ := (t.build_eq_error_iff s).mpr hn
  rw [h] at herror
  cases herror

/-- **Building fails on the first missing parameter and depends on the parameters alone.**  A path
is refused exactly on account of the first parameter that the source lacks.  When it lacks none the
path has the texts that the source gives, however empty they are, and a source of any kind that
agrees on the parameters builds the same, whatever else it holds. -/
theorem build_outcome :
    (∀ e, t.build s = .error e ↔
      ∃ before after, t.names = before ++ e.name :: after ∧ (∀ n ∈ before, ¬ s.Lacks n) ∧
        s.Lacks e.name) ∧
      ((∀ n ∈ t.names, ¬ s.Lacks n) → ∃ texts : List (List Char),
        t.names.map s.text? = texts.map some ∧ t.build s = .ok (t.pathOf texts)) ∧
      ∀ s' : Source, (∀ n ∈ t.names, s.Agree s' n) → t.build s = t.build s' := by
  refine ⟨fun e => ?_, t.build_of_forall_not_lacks s, fun s' h => ?_⟩
  · rw [build_eq_error_iff, Source.firstLacking?_eq_some_iff]
  · exact t.build_eq_of_text?_eq fun n hn => Source.agree_iff.mp (h n hn)

/-- An optional text in a list and a number in a map are written alike, an empty text is a value,
and an absent value is not made good by a later one. -/
theorem build_outcome_userPage :
    userPage.build (.pairs [("id".toList, .present (.value (.str "7".toList)))]) =
        userPage.build (.ofInserts [("page".toList, .absent), ("id".toList, .value (.uint 7))]) ∧
      userPage.build (.pairs [("id".toList, .value (.str []))]) = .ok "/users/".toList ∧
      userPage.build (.pairs [("id".toList, .present .absent), ("id".toList, .value (.uint 7))]) =
        .error ⟨"id".toList⟩ := by
  refine ⟨?_, ?_, ?_⟩
  · obtain ⟨-, -, hagree⟩ :=
      userPage.build_outcome (.pairs [("id".toList, .present (.value (.str "7".toList)))])
    refine hagree _ fun n hn => ?_
    obtain rfl : n = "id".toList := List.mem_singleton.mp hn
    exact .inr ⟨.str "7".toList, .uint 7, rfl, rfl, by decide⟩
  · obtain ⟨-, hbuild, -⟩ := userPage.build_outcome (.pairs [("id".toList, .value (.str []))])
    obtain ⟨texts, htexts, hpath⟩ := hbuild fun n hn hlacks => by
      obtain rfl : n = "id".toList := List.mem_singleton.mp hn
      exact nomatch hlacks (.value (.str [])) rfl
    obtain rfl : [[]] = texts := List.map_injective_iff.mpr (fun _ _ => Option.some.inj) htexts
    exact hpath
  · obtain ⟨herror, -, -⟩ := userPage.build_outcome
      (.pairs [("id".toList, .present .absent), ("id".toList, .value (.uint 7))])
    refine (herror ⟨"id".toList⟩).mpr ⟨[], [], rfl, List.forall_mem_nil _, ?_⟩
    rintro a ⟨⟩
    exact .present .absent

end Template

end RouteTemplate
