import Mathlib.Data.List.Forall2
import RouteTemplate.Load.Convert
import RouteTemplate.Proofs.Supply

/-!
# RouteTemplate.Proofs.RecordLoad — loading a record by name

A record takes entries one by one.  An entry is at fault if its name belongs to no field of a strict
record, if its field was given before, or if its text does not convert; the first entry at fault
decides the error (`Record.collect_eq_error_iff`).  Only when there is none, fields that are missing
count.  So a record loads exactly when the entries fit it (`Record.exists_load_iff`), and each field
then has the value that it is given or has by itself (`Record.load_eq_ok_iff`).
-/

namespace RouteTemplate.Load

/-! ### The first error -/

section FirstError

variable {α β : Type} {f : α → Except LoadError β}

/-- An error is that of the first item that is refused. -/
def FirstError (f : α → Except LoadError β) (xs : List α) (err : LoadError) : Prop :=
  ∃ before x after, xs = before ++ x :: after ∧ (∀ y ∈ before, ∃ b, f y = .ok b) ∧
    f x = .error err

theorem not_firstError_nil (err : LoadError) : ¬ FirstError f [] err := by
  rintro ⟨before, x, after, h, -⟩
  simp at h

theorem firstError_cons_iff {x : α} {xs : List α} {err : LoadError} :
    FirstError f (x :: xs) err ↔ f x = .error err ∨ (∃ b, f x = .ok b) ∧ FirstError f xs err := by
  constructor
  · rintro ⟨before, y, after, h, hbefore, hy⟩
    cases before with
    | nil =>
      cases h
      exact .inl hy
    | cons z before =>
      cases h
      obtain ⟨hx, hbefore⟩ := List.forall_mem_cons.mp hbefore
      exact .inr ⟨hx, before, y, after, rfl, hbefore, hy⟩
  · rintro (hx | ⟨hx, before, y, after, rfl, hbefore, hy⟩)
    · exact ⟨[], x, xs, rfl, fun y hy => absurd hy List.not_mem_nil, hx⟩
    · exact ⟨x :: before, y, after, rfl, List.forall_mem_cons.mpr ⟨hx, hbefore⟩, hy⟩

end FirstError

/-- The value of a field that is not given, if it has one. -/
def Field.whenAbsent (f : Field) : Option Loaded := f.fallback.or f.cell.whenMissing

namespace Record

variable (r : Record)

/-! ### Entries -/

/-- The labels of the fields that entries give. -/
def labels (es : List (List Char × List Char)) : List (List Char) :=
  es.filterMap fun e => (r.field? e.1).map Field.label

/-- What is wrong with an entry behind entries that give the labels `seen`. -/
def fault? (seen : List (List Char)) (e : List Char × List Char) : Option LoadError :=
  match r.field? e.1 with
  | none =>
    if r.strict then
      some (.unknownField e.1 (r.fields.flatMap fun f => f.name :: f.aliases))
    else none
  | some f =>
    if seen.contains f.label then some (.duplicateField f.name)
    else
      match f.cell.load e.2 with
      | .error err => some err
      | .ok _ => none

/-- No entry is at fault, behind entries that give the labels `seen`. -/
def FaultFree (seen : List (List Char)) (es : List (List Char × List Char)) : Prop :=
  ∀ before e after, es = before ++ e :: after → r.fault? (seen ++ r.labels before) e = none

/-- The value that an entry gives to its field, under the label of the field. -/
def gain (e : List Char × List Char) : List (List Char × Loaded) :=
  match r.field? e.1 with
  | none => []
  | some f =>
    match f.cell.load e.2 with
    | .error _ => []
    | .ok l => [(f.label, l)]

/-- The text of an entry converts to the type of the field that its name belongs to, if any. -/
def Converts (e : List Char × List Char) : Prop :=
  ∀ f, r.field? e.1 = some f → ∃ l, f.cell.load e.2 = .ok l

variable {r}

theorem lookup_isSome_eq_contains {α : Type} (found : List (List Char × α)) (label : List Char) :
    (found.lookup label).isSome = (found.map Prod.fst).contains label := by
  induction found with
  | nil => rfl
  | cons e found ih =>
    rw [List.lookup_cons, List.map_cons, List.contains_cons]
    cases label == e.1 with
    | true => rfl
    | false => rw [Bool.false_or, ← ih]

theorem labels_cons (e : List Char × List Char) (es : List (List Char × List Char)) :
    r.labels (e :: es) = r.labels [e] ++ r.labels es := by
  rw [labels, labels, labels, ← List.filterMap_append, List.singleton_append]

theorem label_mem_labels {e : List Char × List Char} {es : List (List Char × List Char)}
    (he : e ∈ es) {f : Field} (hf : r.field? e.1 = some f) : f.label ∈ r.labels es :=
  List.mem_filterMap.mpr ⟨e, he, by rw [hf, Option.map_some]⟩

/-- One step: the entry is at fault, or its value is added. -/
theorem collect_cons (found : List (List Char × Loaded)) (e : List Char × List Char)
    (es : List (List Char × List Char)) :
    r.collect found (e :: es) =
      match r.fault? (found.map Prod.fst) e with
      | some err => .error err
      | none => r.collect (found ++ r.gain e) es := by
  rw [collect, fault?, gain]
  cases r.field? e.1 with
  | none =>
    cases r.strict with
    | true => rfl
    | false => simp
  | some f =>
    simp only [lookup_isSome_eq_contains]
    cases (found.map Prod.fst).contains f.label with
    | true => simp
    | false =>
      cases f.cell.load e.2 with
      | error err => simp
      | ok l => simp

theorem fault?_eq_none_iff {seen : List (List Char)} {e : List Char × List Char} :
    r.fault? seen e = none ↔
      (r.strict = true → (r.field? e.1).isSome = true) ∧ (∀ label ∈ r.labels [e], label ∉ seen) ∧
        r.Converts e := by
  rw [fault?, labels, Converts]
  cases hf : r.field? e.1 with
  | none => cases r.strict <;> simp [hf]
  | some f =>
    cases hl : f.cell.load e.2 with
    | error err => by_cases hseen : f.label ∈ seen <;> simp [hf, hl, hseen]
    | ok l => simp [hf, hl]

theorem map_fst_gain {e : List Char × List Char} (h : r.Converts e) :
    (r.gain e).map Prod.fst = r.labels [e] := by
  rw [gain, labels]
  cases hf : r.field? e.1 with
  | none => simp [hf]
  | some f =>
    obtain ⟨l, hl⟩ := h f hf
    simp [hf, hl]

theorem map_fst_flatMap_gain {es : List (List Char × List Char)} (h : ∀ e ∈ es, r.Converts e) :
    (es.flatMap r.gain).map Prod.fst = r.labels es := by
  induction es with
  | nil => rfl
  | cons e es ih =>
    obtain ⟨he, hes⟩ := List.forall_mem_cons.mp h
    rw [List.flatMap_cons, List.map_append, map_fst_gain he, ih hes, ← labels_cons]

theorem faultFree_nil (seen : List (List Char)) : r.FaultFree seen [] := by
  intro before e after h
  simp at h

theorem faultFree_cons_iff {seen : List (List Char)} {e : List Char × List Char}
    {es : List (List Char × List Char)} :
    r.FaultFree seen (e :: es) ↔
      r.fault? seen e = none ∧ r.FaultFree (seen ++ r.labels [e]) es := by
  constructor
  · intro h
    refine ⟨?_, fun before x after hes => ?_⟩
    · have hfirst := h [] e es rfl
      rwa [labels, List.filterMap_nil, List.append_nil] at hfirst
    · have hlater := h (e :: before) x after (by rw [hes, List.cons_append])
      rwa [labels_cons, ← List.append_assoc] at hlater
  · rintro ⟨hfirst, hrest⟩ before x after hes
    cases before with
    | nil =>
      cases hes
      rwa [labels, List.filterMap_nil, List.append_nil]
    | cons e' before =>
      cases hes
      rw [labels_cons, ← List.append_assoc]
      exact hrest before x after rfl

/-- Entries are taken in when none is at fault, and give their values then. -/
theorem collect_eq_ok_iff {found found' : List (List Char × Loaded)}
    {es : List (List Char × List Char)} :
    r.collect found es = .ok found' ↔
      r.FaultFree (found.map Prod.fst) es ∧ found' = found ++ es.flatMap r.gain := by
  induction es generalizing found with
  | nil =>
    rw [collect, List.flatMap_nil, List.append_nil, Except.ok.injEq, eq_comm]
    exact (and_iff_right (faultFree_nil _)).symm
  | cons e es ih =>
    rw [collect_cons, faultFree_cons_iff]
    cases hfault : r.fault? (found.map Prod.fst) e with
    | some err => simp
    | none =>
      obtain ⟨-, -, hconverts⟩ := fault?_eq_none_iff.mp hfault
      simp only [ih, List.map_append, map_fst_gain hconverts, List.flatMap_cons,
        List.append_assoc, true_and]

/-- The first entry at fault is the first entry, or it is the first of the others at fault. -/
theorem firstFault_cons_iff {seen : List (List Char)} {e : List Char × List Char}
    {es : List (List Char × List Char)} {err : LoadError} :
    (∃ before x after, e :: es = before ++ x :: after ∧ r.FaultFree seen before ∧
        r.fault? (seen ++ r.labels before) x = some err) ↔
      r.fault? seen e = some err ∨ r.fault? seen e = none ∧
        ∃ before x after, es = before ++ x :: after ∧ r.FaultFree (seen ++ r.labels [e]) before ∧
          r.fault? (seen ++ r.labels [e] ++ r.labels before) x = some err := by
  constructor
  · rintro ⟨before, x, after, hes, hbefore, hx⟩
    cases before with
    | nil =>
      cases hes
      rw [labels, List.filterMap_nil, List.append_nil] at hx
      exact .inl hx
    | cons e' before =>
      cases hes
      obtain ⟨he, hbefore⟩ := faultFree_cons_iff.mp hbefore
      rw [labels_cons, ← List.append_assoc] at hx
      exact .inr ⟨he, before, x, after, rfl, hbefore, hx⟩
  · rintro (he | ⟨he, before, x, after, rfl, hbefore, hx⟩)
    · refine ⟨[], e, es, rfl, faultFree_nil seen, ?_⟩
      rwa [labels, List.filterMap_nil, List.append_nil]
    · refine ⟨e :: before, x, after, rfl, faultFree_cons_iff.mpr ⟨he, hbefore⟩, ?_⟩
      rwa [labels_cons, ← List.append_assoc]

/-- The first entry at fault decides the error. -/
theorem collect_eq_error_iff {found : List (List Char × Loaded)} {err : LoadError}
    {es : List (List Char × List Char)} :
    r.collect found es = .error err ↔
      ∃ before e after, es = before ++ e :: after ∧ r.FaultFree (found.map Prod.fst) before ∧
        r.fault? (found.map Prod.fst ++ r.labels before) e = some err := by
  induction es generalizing found with
  | nil =>
    constructor
    · intro h
      cases h
    · rintro ⟨before, e, after, hes, -⟩
      simp at hes
  | cons e es ih =>
    rw [collect_cons, firstFault_cons_iff]
    cases hfault : r.fault? (found.map Prod.fst) e with
    | some err' => simp
    | none =>
      obtain ⟨-, -, hconverts⟩ := fault?_eq_none_iff.mp hfault
      simp only [ih, List.map_append, map_fst_gain hconverts, reduceCtorEq, true_and, false_or]

/-! ### Entries without faults -/

theorem nodup_labels_singleton (e : List Char × List Char) : (r.labels [e]).Nodup := by
  rw [labels]
  cases hf : r.field? e.1 <;> simp [hf]

/-- No entry is at fault when a strict record knows all names, no field is given twice, and all
texts convert. -/
theorem faultFree_iff {seen : List (List Char)} {es : List (List Char × List Char)} :
    r.FaultFree seen es ↔
      (r.strict = true → ∀ e ∈ es, (r.field? e.1).isSome = true) ∧
        ((r.labels es).Nodup ∧ ∀ label ∈ r.labels es, label ∉ seen) ∧ ∀ e ∈ es, r.Converts e := by
  induction es generalizing seen with
  | nil => exact ⟨fun _ => by simp [labels], fun _ => faultFree_nil seen⟩
  | cons e es ih =>
    rw [faultFree_cons_iff, ih, fault?_eq_none_iff, labels_cons e es, List.nodup_append]
    constructor
    · rintro ⟨⟨hknown, hnew, hconverts⟩, hknowns, ⟨hnodup, hnews⟩, hall⟩
      refine ⟨fun hs => List.forall_mem_cons.mpr ⟨hknown hs, hknowns hs⟩,
        ⟨⟨nodup_labels_singleton e, hnodup, fun a ha b hb hab => ?_⟩, fun label hl => ?_⟩,
        List.forall_mem_cons.mpr ⟨hconverts, hall⟩⟩
      · exact hnews b hb (List.mem_append_right _ (hab ▸ ha))
      · rcases List.mem_append.mp hl with hl | hl
        · exact hnew label hl
        · exact fun hseen => hnews label hl (List.mem_append_left _ hseen)
    · rintro ⟨hknowns, ⟨⟨-, hnodup, hapart⟩, hnews⟩, hall⟩
      obtain ⟨hconverts, hall⟩ := List.forall_mem_cons.mp hall
      refine ⟨⟨fun hs => (List.forall_mem_cons.mp (hknowns hs)).1,
          fun label hl => hnews label (List.mem_append_left _ hl), hconverts⟩,
        fun hs => (List.forall_mem_cons.mp (hknowns hs)).2,
        ⟨hnodup, fun label hl hseen => ?_⟩, hall⟩
      rcases List.mem_append.mp hseen with hseen | hseen
      · exact hnews label (List.mem_append_right _ hl) hseen
      · exact hapart label hseen label hl rfl

end Record

/-! ### Fields -/

theorem Field.complete_eq (f : Field) (found : List (List Char × Loaded)) :
    f.complete found =
      match (found.lookup f.label).or f.whenAbsent with
      | some l => .ok l
      | none => .error (.missingField f.name) := by
  rw [complete, whenAbsent]
  cases found.lookup f.label with
  | some l => rfl
  | none =>
    cases f.fallback with
    | some l => rfl
    | none => cases f.cell.whenMissing <;> rfl

/-- All fields have values, each its own. -/
theorem completeAll_eq_ok_iff {found ls : List (List Char × Loaded)} {fs : List Field} :
    completeAll found fs = .ok ls ↔
      List.Forall₂ (fun f x => x.1 = f.label ∧ f.complete found = .ok x.2) fs ls := by
  induction fs generalizing ls with
  | nil => rw [completeAll, Except.ok.injEq, List.forall₂_nil_left_iff, eq_comm]
  | cons f fs ih =>
    constructor
    · intro h
      rw [completeAll] at h
      split at h
      · cases h
      · rename_i l hl
        split at h
        · cases h
        · rename_i ls' hls
          cases h
          exact .cons ⟨rfl, hl⟩ (ih.mp hls)
    · rintro (_ | ⟨⟨hlabel, hl⟩, hrest⟩)
      rw [completeAll, hl, ih.mpr hrest, ← hlabel]

/-- The first field without a value decides the error. -/
theorem completeAll_eq_error_iff {found : List (List Char × Loaded)} {fs : List Field}
    {err : LoadError} :
    completeAll found fs = .error err ↔ FirstError (Field.complete · found) fs err := by
  induction fs with
  | nil => simp [completeAll, not_firstError_nil]
  | cons f fs ih =>
    rw [firstError_cons_iff, ← ih, completeAll]
    cases f.complete found with
    | error err' => simp
    | ok l => cases completeAll found fs <;> simp

/-! ### Records -/

namespace Record

/-- Entries give a field a value: a text that converts to it, or none where the field has a value by
itself. -/
def Gives (r : Record) (es : List (List Char × List Char)) (f : Field) (l : Loaded) : Prop :=
  (∃ e ∈ es, ∃ g, r.field? e.1 = some g ∧ g.label = f.label ∧ g.cell.load e.2 = .ok l) ∨
    (f.label ∉ r.labels es ∧ f.whenAbsent = some l)

/-- Entries do not give a field that has no value by itself. -/
def Misses (r : Record) (es : List (List Char × List Char)) (f : Field) : Prop :=
  f.label ∉ r.labels es ∧ f.whenAbsent = none

/-- Entries fit a record. -/
structure Fits (r : Record) (es : List (List Char × List Char)) : Prop where
  known : r.strict = true → ∀ e ∈ es, (r.field? e.1).isSome = true
  /-- Names of fields belong to different fields. -/
  distinct : (r.labels es).Nodup
  converts : ∀ e ∈ es, r.Converts e
  complete : ∀ f ∈ r.fields, ¬ r.Misses es f

/-- The map of the entries that belong to no field, where a record collects them. -/
def collected (r : Record) (es : List (List Char × List Char)) : List (List Char × Loaded) :=
  match r.rest with
  | none => []
  | some label => [(label, r.leftover es)]

variable {r : Record} {es : List (List Char × List Char)}

theorem mem_flatMap_gain_iff {label : List Char} {l : Loaded} :
    (label, l) ∈ es.flatMap r.gain ↔
      ∃ e ∈ es, ∃ g, r.field? e.1 = some g ∧ g.label = label ∧ g.cell.load e.2 = .ok l := by
  rw [List.mem_flatMap]
  refine exists_congr fun e => and_congr_right fun _ => ?_
  rw [gain]
  cases hf : r.field? e.1 with
  | none => simp
  | some g =>
    cases hl : g.cell.load e.2 with
    | error err => simp [hl]
    | ok l' => simp [hl, eq_comm]

theorem load_eq_ok_iff_steps {l : Loaded} :
    r.load es = .ok l ↔
      ∃ found fs, r.collect [] es = .ok found ∧ completeAll found r.fields = .ok fs ∧
        l = .record (fs ++ r.collected es) := by
  rw [load, collected]
  cases r.collect [] es with
  | error e => simp
  | ok found =>
    cases hfs : completeAll found r.fields with
    | error e => simp [hfs]
    | ok fs => cases r.rest <;> simp [hfs, eq_comm]

theorem load_eq_error_iff_steps {err : LoadError} :
    r.load es = .error err ↔
      r.collect [] es = .error err ∨
        ∃ found, r.collect [] es = .ok found ∧ completeAll found r.fields = .error err := by
  rw [load]
  cases r.collect [] es with
  | error e => simp
  | ok found =>
    cases hfs : completeAll found r.fields with
    | error e => simp [hfs]
    | ok fs => cases r.rest <;> simp [hfs]

section Values

variable (h : r.FaultFree [] es)

include h

theorem lookup_flatMap_gain_eq_some_iff {label : List Char} {l : Loaded} :
    (es.flatMap r.gain).lookup label = some l ↔
      ∃ e ∈ es, ∃ g, r.field? e.1 = some g ∧ g.label = label ∧ g.cell.load e.2 = .ok l := by
  obtain ⟨-, ⟨hnodup, -⟩, hconverts⟩ := faultFree_iff.mp h
  have hd : ((es.flatMap r.gain).map Prod.fst).Nodup := by rwa [map_fst_flatMap_gain hconverts]
  rw [← mem_flatMap_gain_iff, lookup_eq_some_iff_mem hd]

theorem lookup_flatMap_gain_eq_none_iff {label : List Char} :
    (es.flatMap r.gain).lookup label = none ↔ label ∉ r.labels es := by
  obtain ⟨-, -, hconverts⟩ := faultFree_iff.mp h
  rw [← map_fst_flatMap_gain hconverts, ← List.contains_iff_mem, ← lookup_isSome_eq_contains,
    Bool.not_eq_true, Option.isSome_eq_false_iff, Option.isNone_iff_eq_none]

/-- A field gets the value that entries without faults give it. -/
theorem complete_eq_ok_iff {f : Field} {l : Loaded} :
    f.complete (es.flatMap r.gain) = .ok l ↔ r.Gives es f l := by
  rw [Field.complete_eq, Gives]
  cases hlookup : (es.flatMap r.gain).lookup f.label with
  | some l' =>
    have hgiven : ¬ f.label ∉ r.labels es := by
      rw [← lookup_flatMap_gain_eq_none_iff h, hlookup]
      exact Option.some_ne_none l'
    rw [← lookup_flatMap_gain_eq_some_iff h, hlookup, or_iff_left (fun hn => hgiven hn.1),
      Option.some_or, Except.ok.injEq, Option.some.injEq]
  | none =>
    have habsent := (lookup_flatMap_gain_eq_none_iff h).mp hlookup
    rw [← lookup_flatMap_gain_eq_some_iff h, hlookup, Option.none_or, and_iff_right habsent,
      or_iff_right (Option.some_ne_none l).symm]
    cases f.whenAbsent <;> simp

theorem complete_eq_error_iff {f : Field} {err : LoadError} :
    f.complete (es.flatMap r.gain) = .error err ↔ r.Misses es f ∧ err = .missingField f.name := by
  rw [Field.complete_eq, Misses, ← lookup_flatMap_gain_eq_none_iff h]
  cases (es.flatMap r.gain).lookup f.label with
  | some l' => simp
  | none => cases f.whenAbsent <;> simp [eq_comm]

theorem exists_complete_iff {f : Field} :
    (∃ l, f.complete (es.flatMap r.gain) = .ok l) ↔ ¬ r.Misses es f := by
  constructor
  · rintro ⟨l, hl⟩ hmisses
    rw [(complete_eq_error_iff h).mpr ⟨hmisses, rfl⟩] at hl
    cases hl
  · intro hgiven
    cases hf : f.complete (es.flatMap r.gain) with
    | ok l => exact ⟨l, rfl⟩
    | error err => exact absurd ((complete_eq_error_iff h).mp hf).1 hgiven

end Values

theorem faultFree_of_fits (h : r.Fits es) : r.FaultFree [] es :=
  faultFree_iff.mpr ⟨h.known, ⟨h.distinct, fun _ _ => List.not_mem_nil⟩, h.converts⟩

theorem fits_of_faultFree (h : r.FaultFree [] es) (hc : ∀ f ∈ r.fields, ¬ r.Misses es f) :
    r.Fits es := by
  obtain ⟨hknown, ⟨hdistinct, -⟩, hconverts⟩ := faultFree_iff.mp h
  exact ⟨hknown, hdistinct, hconverts, hc⟩

/-- A record loads from the entries that fit it, with the values that they give to its fields. -/
theorem load_eq_ok_iff {l : Loaded} :
    r.load es = .ok l ↔
      r.Fits es ∧ ∃ fs, List.Forall₂ (fun f x => x.1 = f.label ∧ r.Gives es f x.2) r.fields fs ∧
        l = .record (fs ++ r.collected es) := by
  have hvalues (h : r.FaultFree [] es) (fs : List (List Char × Loaded)) :
      completeAll (es.flatMap r.gain) r.fields = .ok fs ↔
        List.Forall₂ (fun f x => x.1 = f.label ∧ r.Gives es f x.2) r.fields fs := by
    simp only [completeAll_eq_ok_iff, complete_eq_ok_iff h]
  rw [load_eq_ok_iff_steps]
  constructor
  · rintro ⟨found, fs, hfound, hfs, rfl⟩
    obtain ⟨hfree, rfl⟩ := collect_eq_ok_iff.mp hfound
    have hgives := (hvalues hfree fs).mp hfs
    refine ⟨fits_of_faultFree hfree ?_, fs, hgives, rfl⟩
    refine forall_mem_of_forall₂ (P := fun _ => True) ?_ hgives.flip fun _ _ => trivial
    rintro x f ⟨-, hvalue⟩ - ⟨habsent, hnone⟩
    rcases hvalue with ⟨e, he, g, hg, hlabel, -⟩ | ⟨-, hsome⟩
    · exact habsent (hlabel ▸ label_mem_labels he hg)
    · rw [hnone] at hsome
      cases hsome
  · rintro ⟨hfits, fs, hfs, rfl⟩
    have hfree := faultFree_of_fits hfits
    exact ⟨es.flatMap r.gain, fs, collect_eq_ok_iff.mpr ⟨hfree, rfl⟩,
      (hvalues hfree fs).mpr hfs, rfl⟩

/-- The first entry at fault decides the error; where there is none, the first field that is missing
does. -/
theorem load_eq_error_iff {err : LoadError} :
    r.load es = .error err ↔
      (∃ before e after, es = before ++ e :: after ∧ r.FaultFree [] before ∧
        r.fault? (r.labels before) e = some err) ∨
      (r.FaultFree [] es ∧ ∃ before f after, r.fields = before ++ f :: after ∧
        (∀ g ∈ before, ¬ r.Misses es g) ∧ r.Misses es f ∧ err = .missingField f.name) := by
  rw [load_eq_error_iff_steps]
  constructor
  · rintro (h | ⟨found, hfound, h⟩)
    · exact .inl (collect_eq_error_iff.mp h)
    · obtain ⟨hfree, rfl⟩ := collect_eq_ok_iff.mp hfound
      obtain ⟨before, f, after, hfs, hbefore, hf⟩ := completeAll_eq_error_iff.mp h
      obtain ⟨hmisses, herr⟩ := (complete_eq_error_iff hfree).mp hf
      exact .inr ⟨hfree, before, f, after, hfs,
        fun g hg => (exists_complete_iff hfree).mp (hbefore g hg), hmisses, herr⟩
  · rintro (h | ⟨hfree, before, f, after, hfs, hbefore, hmisses, herr⟩)
    · exact .inl (collect_eq_error_iff.mpr h)
    · refine .inr ⟨es.flatMap r.gain, collect_eq_ok_iff.mpr ⟨hfree, rfl⟩, ?_⟩
      exact completeAll_eq_error_iff.mpr ⟨before, f, after, hfs,
        fun g hg => (exists_complete_iff hfree).mpr (hbefore g hg),
        (complete_eq_error_iff hfree).mpr ⟨hmisses, herr⟩⟩

/-- A record loads from the entries that fit it, and from no others. -/
theorem exists_load_iff : (∃ l, r.load es = .ok l) ↔ r.Fits es := by
  constructor
  · rintro ⟨l, hl⟩
    exact (load_eq_ok_iff.mp hl).1
  · intro hfits
    cases hl : r.load es with
    | ok l => exact ⟨l, rfl⟩
    | error err =>
      rcases load_eq_error_iff.mp hl with ⟨before, e, after, hes, -, hfault⟩ |
        ⟨-, before, f, after, hfs, -, hmisses, -⟩
      · have hnone := faultFree_of_fits hfits before e after hes
        rw [List.nil_append, hfault] at hnone
        cases hnone
      · refine absurd hmisses (hfits.complete f ?_)
        rw [hfs]
        exact List.mem_append_right _ List.mem_cons_self

/-! ### Options -/

section Options

variable {f : Field} {c : Cell} (hcell : f.cell = .option c)

include hcell

/-- An option that is not given is absent. -/
theorem gives_option_iff (hnone : f.fallback = none) (habsent : f.label ∉ r.labels es)
    {l : Loaded} : r.Gives es f l ↔ l = .absent := by
  have hvalue : f.whenAbsent = some .absent := by
    rw [Field.whenAbsent, hnone, hcell]
    rfl
  rw [Gives, hvalue, Option.some.injEq, and_iff_right habsent, eq_comm]
  refine or_iff_right ?_
  rintro ⟨e, he, g, hg, hlabel, -⟩
  exact habsent (hlabel ▸ label_mem_labels he hg)

/-- An option that is given as a text which does not convert is an error. -/
theorem load_ne_ok_of_option {e : List Char × List Char} (he : e ∈ es)
    (hf : r.field? e.1 = some f) {err : LoadError} (herr : c.load e.2 = .error err) (l : Loaded) :
    r.load es ≠ .ok l := by
  intro hl
  obtain ⟨l', hl'⟩ := (load_eq_ok_iff.mp hl).1.converts e he f hf
  rw [hcell, Cell.load, herr] at hl'
  cases hl'

end Options

end Record

end RouteTemplate.Load
