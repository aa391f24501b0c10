import Mathlib.Data.List.Perm.Basic
import RouteTemplate.Load.Declared
import RouteTemplate.Proofs.KeyOrder
import RouteTemplate.Proofs.RecordLoad

/-!
# RouteTemplate.Proofs.LoadByName — targets that are filled by name

Records and maps are filled by name.  Two matches that hold the same entries in different orders
load into such a target alike: both succeed with the same value, or both fail
(`Target.load_eq_ok_iff_of_perm`).  Only which error is reported depends on the order
(`load_by_name`).
-/

namespace RouteTemplate.Load

/-! ### Records -/

namespace Record

variable {r : Record} {es es' : List (List Char × List Char)}

theorem labels_perm (h : es.Perm es') : (r.labels es).Perm (r.labels es') := h.filterMap _

theorem misses_iff_of_perm (h : es.Perm es') {f : Field} : r.Misses es f ↔ r.Misses es' f := by
  rw [Misses, Misses, (labels_perm h).mem_iff]

theorem gives_iff_of_perm (h : es.Perm es') {f : Field} {l : Loaded} :
    r.Gives es f l ↔ r.Gives es' f l := by
  simp only [Gives, (labels_perm h).mem_iff, h.mem_iff]

theorem Fits.of_perm (h : es.Perm es') (hf : r.Fits es) : r.Fits es' where
  known hs e he := hf.known hs e (h.mem_iff.mpr he)
  distinct := (labels_perm h).nodup_iff.mp hf.distinct
  converts e he := hf.converts e (h.mem_iff.mpr he)
  complete f hfield hmisses := hf.complete f hfield ((misses_iff_of_perm h).mpr hmisses)

theorem leftover_eq_of_perm (h : es.Perm es') (hd : (es.map Prod.fst).Nodup) :
    r.leftover es = r.leftover es' := by
  have hothers := h.filter fun e => (r.field? e.1).isNone
  have hsub : (es.filter fun e => (r.field? e.1).isNone).Sublist es := List.filter_sublist
  refine congrArg Loaded.map (orderedBy_perm (hothers.map _) ?_)
  rw [List.map_map]
  exact nodup_map_orderKey_text (hd.sublist (hsub.map Prod.fst))

theorem collected_eq_of_perm (h : es.Perm es') (hd : (es.map Prod.fst).Nodup) :
    r.collected es = r.collected es' := by
  rw [collected, collected, leftover_eq_of_perm h hd]

theorem load_of_perm (h : es.Perm es') (hd : (es.map Prod.fst).Nodup) {l : Loaded}
    (hl : r.load es = .ok l) : r.load es' = .ok l := by
  obtain ⟨hfits, fs, hfs, rfl⟩ := load_eq_ok_iff.mp hl
  refine load_eq_ok_iff.mpr ⟨hfits.of_perm h, fs, hfs.imp fun f x hx => ?_, ?_⟩
  · exact ⟨hx.1, (gives_iff_of_perm h).mp hx.2⟩
  · rw [collected_eq_of_perm h hd]

end Record

/-! ### Maps -/

section Maps

variable {c : Cell} {es es' : List (List Char × List Char)}

/-- A map has the names as keys, each with its text as the cell loads it. -/
theorem loadEntries_text_eq_ok_iff {ls : List (Loaded × Loaded)} :
    loadEntries .text c es = .ok ls ↔
      List.Forall₂ (fun e x => x.1 = .text e.1 ∧ c.load e.2 = .ok x.2) es ls := by
  induction es generalizing ls with
  | nil => rw [loadEntries, Except.ok.injEq, List.forall₂_nil_left_iff, eq_comm]
  | cons e es ih =>
    constructor
    · intro h
      simp only [loadEntries, Cell.load] at h
      split at h
      · cases h
      · rename_i l hl
        split at h
        · cases h
        · rename_i ls' hls
          cases h
          exact .cons ⟨rfl, hl⟩ (ih.mp hls)
    · rintro (_ | ⟨⟨hkey, hl⟩, hrest⟩)
      simp only [loadEntries, Cell.load, hl, ih.mpr hrest, ← hkey]

/-- The first text that does not load decides the error. -/
theorem loadEntries_text_eq_error_iff {err : LoadError} :
    loadEntries .text c es = .error err ↔ FirstError (fun e => c.load e.2) es err := by
  induction es with
  | nil => simp [loadEntries, not_firstError_nil]
  | cons e es ih =>
    rw [firstError_cons_iff, ← ih]
    simp only [loadEntries, Cell.load]
    cases c.load e.2 with
    | error err' => simp
    | ok l => cases loadEntries .text c es <;> simp

theorem map_key_of_forall₂ {ls : List (Loaded × Loaded)}
    (h : List.Forall₂ (fun e x => x.1 = .text e.1 ∧ c.load e.2 = .ok x.2) es ls) :
    ls.map (·.1.orderKey) = es.map fun e => (Loaded.text e.1).orderKey := by
  induction h with
  | nil => rfl
  | cons hx _ ih => rw [List.map_cons, List.map_cons, ih, hx.1]

/-- Entries in another order make the same map. -/
theorem loadEntries_text_of_perm (h : es.Perm es') (hd : (es.map Prod.fst).Nodup)
    {ls : List (Loaded × Loaded)} (hls : loadEntries .text c es = .ok ls) :
    ∃ ls', loadEntries .text c es' = .ok ls' ∧
      orderedBy (·.1.orderKey) ls' = orderedBy (·.1.orderKey) ls := by
  have hloaded := loadEntries_text_eq_ok_iff.mp hls
  obtain ⟨ls', hloaded', hperm⟩ := List.perm_comp_forall₂ h.symm hloaded
  refine ⟨ls', loadEntries_text_eq_ok_iff.mpr hloaded', (orderedBy_perm hperm.symm ?_).symm⟩
  rw [map_key_of_forall₂ hloaded]
  exact nodup_map_orderKey_text hd

end Maps

/-! ### Targets -/

/-- Targets that are filled by name: records, maps with names as keys, and what wraps one of
them. -/
inductive Target.ByName : Target → Prop where
  | record (r : Record) : ByName (.record r)
  | map (c : Cell) : ByName (.map .text c)
  | wrapped {t : Target} : ByName t → ByName (.wrapped t)

theorem Target.load_of_perm {p q : Params} (h : p.entries.Perm q.entries) {t : Target}
    (ht : t.ByName) {l : Loaded} (hl : t.load p = .ok l) : t.load q = .ok l := by
  induction ht generalizing l with
  | record r => exact Record.load_of_perm h p.nodup hl
  | map c =>
    rw [Target.load] at hl ⊢
    cases hes : loadEntries .text c p.entries with
    | error e =>
      rw [hes] at hl
      cases hl
    | ok ls =>
      obtain ⟨ls', hls', hsame⟩ := loadEntries_text_of_perm h p.nodup hes
      rw [hes] at hl
      rw [hls', ← hl]
      exact congrArg (fun ls => Except.ok (Loaded.map ls)) hsame
  | @wrapped t _ ih =>
    rw [Target.load] at hl ⊢
    cases ht : t.load p with
    | error e =>
      rw [ht] at hl
      cases hl
    | ok l' =>
      rw [ht] at hl
      rw [ih ht, ← hl]

theorem Target.load_eq_ok_iff_of_perm {p q : Params} (h : p.entries.Perm q.entries) {t : Target}
    (ht : t.ByName) (l : Loaded) : t.load p = .ok l ↔ t.load q = .ok l :=
  ⟨Target.load_of_perm h ht, Target.load_of_perm h.symm ht⟩

/-- The first text that does not load decides the error of a map. -/
theorem Target.load_map_eq_error_iff {p : Params} {c : Cell} {err : LoadError} :
    (Target.map .text c).load p = .error err ↔ FirstError (fun e => c.load e.2) p.entries err := by
  rw [← loadEntries_text_eq_error_iff, Target.load]
  cases loadEntries .text c p.entries with
  | error e =>
    constructor
    · intro h
      cases h
      rfl
    · intro h
      cases h
      rfl
  | ok ls =>
    constructor
    · intro h
      cases h
    · intro h
      cases h

/-- **Loading by name.**  Two matches hold the same entries, perhaps in different orders.  A target
that is filled by name loads from both with the same value, or from neither.  A record loads exactly
from the entries that fit it: names of fields belong to different fields, their texts convert, every
field is given that has no value by itself, and a strict record knows all names.  Each field then
has the value that it is given, or else the one that it has by itself: an option that is not given
is absent, and one whose text does not convert is an error.  Where loading fails, the first entry at
fault decides the error, and the first missing field does only where no entry is at fault. -/
theorem load_by_name {p q : Params} (h : p.entries.Perm q.entries) :
    (∀ t : Target, t.ByName → ∀ l : Loaded, t.load p = .ok l ↔ t.load q = .ok l) ∧
    (∀ r : Record, (∃ l, (Target.record r).load p = .ok l) ↔ r.Fits p.entries) ∧
    (∀ (r : Record) (l : Loaded), (Target.record r).load p = .ok l →
      ∃ fs, List.Forall₂ (fun f x => x.1 = f.label ∧ r.Gives p.entries f x.2) r.fields fs ∧
        l = .record (fs ++ r.collected p.entries)) ∧
    (∀ (r : Record) (f : Field) (c : Cell), f.cell = .option c → f.fallback = none →
      (f.label ∉ r.labels p.entries → ∀ l, r.Gives p.entries f l ↔ l = .absent) ∧
      ∀ e ∈ p.entries, r.field? e.1 = some f → ∀ err, c.load e.2 = .error err →
        ∀ l, (Target.record r).load p ≠ .ok l) ∧
    (∀ (r : Record) (err : LoadError), (Target.record r).load p = .error err ↔
      (∃ before e after, p.entries = before ++ e :: after ∧ r.FaultFree [] before ∧
        r.fault? (r.labels before) e = some err) ∨
      (r.FaultFree [] p.entries ∧ ∃ before f after, r.fields = before ++ f :: after ∧
        (∀ g ∈ before, ¬ r.Misses p.entries g) ∧ r.Misses p.entries f ∧
        err = .missingField f.name)) ∧
    ∀ (c : Cell) (err : LoadError), (Target.map .text c).load p = .error err ↔
      FirstError (fun e => c.load e.2) p.entries err := by
  refine ⟨fun t ht l => Target.load_eq_ok_iff_of_perm h ht l, fun r => Record.exists_load_iff,
    fun r l hl => (Record.load_eq_ok_iff.mp hl).2, fun r f c hcell hnone => ⟨?_, ?_⟩,
    fun r err => Record.load_eq_error_iff, fun c err => Target.load_map_eq_error_iff⟩
  · exact fun habsent l => Record.gives_option_iff hcell hnone habsent
  · exact fun e he hf err herr l => Record.load_ne_ok_of_option hcell he hf herr l

/-- An aliased name and a tag load alike in both orders. -/
theorem load_by_name_aliased :
    ∃ p q : Params, p.entries = [("uid".toList, "5".toList), ("tag".toList, "x".toList)] ∧
      q.entries = [("tag".toList, "x".toList), ("uid".toList, "5".toList)] ∧
      p.entries.Perm q.entries ∧
      (Target.record Declared.aliased).load q =
        .ok (.record [("id".toList, .int 5), ("tag".toList, .text "x".toList)]) := by
  have hp : [("uid".toList, "5".toList), ("tag".toList, "x".toList)].Perm
      [("tag".toList, "x".toList), ("uid".toList, "5".toList)] := List.Perm.swap _ _ _
  have hload : (Target.record Declared.aliased).load
      ⟨[("uid".toList, "5".toList), ("tag".toList, "x".toList)], by decide⟩ =
        .ok (.record [("id".toList, .int 5), ("tag".toList, .text "x".toList)]) := rfl
  refine ⟨⟨_, by decide⟩, ⟨[("tag".toList, "x".toList), ("uid".toList, "5".toList)], by decide⟩,
    rfl, rfl, hp, ?_⟩
  exact ((load_by_name hp).1 _ (.record Declared.aliased) _).mp hload

/-- A field that is no option may be missing where it has a value by itself. -/
theorem load_absent_fallback :
    ∃ p : Params, p.entries = [("id".toList, "1".toList)] ∧
      (Target.record Declared.aliased).load p =
        .ok (.record [("id".toList, .int 1), ("tag".toList, .text [])]) ∧
      ∃ f ∈ Declared.aliased.fields, f.label = "tag".toList ∧ (∀ c, f.cell ≠ .option c) ∧
        f.label ∉ Declared.aliased.labels p.entries := by
  refine ⟨⟨[("id".toList, "1".toList)], by decide⟩, rfl, rfl, _,
    List.mem_cons_of_mem _ List.mem_cons_self, rfl, ?_, ?_⟩
  · intro c hc
    cases hc
  · decide

end RouteTemplate.Load
