import Mathlib.Data.List.Nodup
import RouteTemplate.Proofs.Precedence
import RouteTemplate.Proofs.Undecodable

/-!
# RouteTemplate.Proofs.Views — one list behind all views of a match

The values of a match can be read entry by entry, by name, by place, as a map, and against given
pairs.  All of these show one list of pairs (`Params.Shows`), because the names of a match are all
different.  For a match of a path these are the names of the template, in its order
(`Template.views_agree`).
-/

namespace RouteTemplate

/-! ### Reading entry by entry -/

namespace Params.Cursor

variable (c : Cursor)

theorem next_fst : c.next.1 = c.rest.head? := by
  rw [next]
  cases c.rest <;> rfl

theorem rest_next : c.next.2.rest = c.rest.tail := by
  rw [next]
  cases h : c.rest with
  | nil => exact h
  | cons e es => rfl

theorem rest_skip (j : Nat) : (c.skip j).rest = c.rest.drop j := by
  induction j generalizing c with
  | zero => rfl
  | succ j ih => rw [skip, ih, rest_next, List.drop_tail]

end Params.Cursor

/-! ### Maps -/

namespace NameMap

variable {α : Type}

theorem entries_insert_of_notMem {m : NameMap α} {name : List Char}
    (h : name ∉ m.entries.map Prod.fst) (value : α) :
    (m.insert name value).entries = m.entries ++ [(name, value)] := by
  rw [insert, dif_neg h]

/-- Pairs with different names are all kept. -/
theorem entries_ofList {ps : List (List Char × α)} (h : (ps.map Prod.fst).Nodup) :
    (ofList ps).entries = ps := by
  induction ps using List.reverseRecOn with
  | nil => rfl
  | append_singleton ps p ih =>
    rw [List.map_append, List.nodup_append_comm] at h
    obtain ⟨hp, hps⟩ := List.nodup_cons.mp h
    have ih := ih hps
    rw [ofList_concat, entries_insert_of_notMem (by rwa [ih]), ih]

end NameMap

/-! ### Views -/

namespace Params

/-- Every view of a match shows the given pairs. -/
structure Shows (ps : Params) (pairs : List (List Char × List Char)) : Prop where
  length : ps.length = pairs.length
  isEmpty : ps.isEmpty = true ↔ pairs = []
  /-- The reading gives one pair after the other, and none behind the last. -/
  reading : ∀ j, (ps.cursor.skip j).next.1 = pairs[j]?
  remaining : ∀ j, (ps.cursor.skip j).remaining = pairs.length - j
  names : ps.names = pairs.map Prod.fst
  namesRemaining : ∀ j, (ps.names.drop j).length = pairs.length - j
  values : ps.values = pairs.map Prod.snd
  get? : ∀ n v, ps.get? n = some v ↔ (n, v) ∈ pairs
  contains : ∀ n, ps.contains n = true ↔ ∃ v, (n, v) ∈ pairs
  get : ∀ n v, ps.get n = .ok v ↔ (n, v) ∈ pairs
  get_error : ∀ n, ps.get n = .error .unknownName ↔ ps.get? n = none
  getAt : ∀ i (h : i < pairs.length), ps.getAt i = .ok pairs[i].2
  getAt_error : ∀ i, pairs.length ≤ i → ps.getAt i = .error (.outOfBounds pairs.length i)
  /-- A map, whatever order it keeps, has these pairs and no others. -/
  map : ∀ m : NameMap (List Char), m.FilledBy ps.entries → m.entries.Perm pairs
  toMap : ps.toMap.FilledBy ps.entries
  hasPairs : ∀ given, ps.hasPairs given = true ↔ given = pairs

variable (ps : Params)

theorem get?_eq_some_iff {n v : List Char} : ps.get? n = some v ↔ (n, v) ∈ ps.entries :=
  lookup_eq_some_iff_mem ps.nodup

theorem get_eq_ok_iff {n v : List Char} : ps.get n = .ok v ↔ ps.get? n = some v := by
  rw [get]
  cases ps.get? n <;> simp

theorem get_eq_error_iff {n : List Char} : ps.get n = .error .unknownName ↔ ps.get? n = none := by
  rw [get]
  cases ps.get? n <;> simp

/-- The given pairs are those of the match, one by one. -/
theorem hasPairs_eq_true_iff {given : List (List Char × List Char)} :
    ps.hasPairs given = true ↔ given = ps.entries := by
  rw [eq_comm (a := given), ← List.forall₂_eq_eq_eq, List.forall₂_iff_zip, hasPairs,
    Bool.and_eq_true, beq_iff_eq, List.all_eq_true, Params.length]
  refine and_congr_right fun _ => ⟨fun h a b hab => ?_, fun h e he => ?_⟩
  · have heq := h (a, b) hab
    rw [Bool.and_eq_true, beq_iff_eq, beq_iff_eq] at heq
    exact Prod.ext heq.1 heq.2
  · rw [h he]
    simp

/-- All views of a match show its entries. -/
theorem shows_entries : ps.Shows ps.entries where
  length := rfl
  isEmpty := List.isEmpty_iff
  reading j := by rw [Cursor.next_fst, Cursor.rest_skip, List.head?_drop, cursor]
  remaining j := by rw [Cursor.remaining, Cursor.rest_skip, List.length_drop, cursor]
  names := rfl
  namesRemaining j := by rw [List.length_drop, Params.names, List.length_map]
  values := rfl
  get? _ _ := ps.get?_eq_some_iff
  contains n := by
    rw [Params.contains, Option.isSome_iff_exists]
    exact exists_congr fun v => ps.get?_eq_some_iff
  get _ _ := ps.get_eq_ok_iff.trans ps.get?_eq_some_iff
  get_error _ := ps.get_eq_error_iff
  getAt i h := by
    rw [Params.getAt, Params.values, List.getElem?_map, List.getElem?_eq_getElem h]
    rfl
  getAt_error i h := by
    rw [Params.getAt, Params.values, List.getElem?_map, List.getElem?_eq_none h]
    rfl
  map m h := by
    rw [NameMap.FilledBy, NameMap.entries_ofList ps.nodup] at h
    exact h
  toMap := NameMap.filledBy_ofList ps.entries
  hasPairs _ := ps.hasPairs_eq_true_iff

end Params

namespace Template

/-- **All views of a match agree.**  There is one list of pairs, with the names of the template in
order and none of them twice, that every view of a match shows: the pairs read one after the other,
the number that remains after any number of steps, the names and the values, the look-up of any
name and of any place, the map, and the comparison with given pairs. -/
theorem views_agree (t : Template) {path : List Char} {ps : Params}
    (h : t.tryMatch path = .ok (some ps)) :
    ∃ pairs : List (List Char × List Char), pairs.map Prod.fst = t.names ∧
      (pairs.map Prod.fst).Nodup ∧ ps.Shows pairs := by
  obtain ⟨-, -, hnames, -⟩ := t.tryMatch_eq_some_iff.mp h
  exact ⟨ps.entries, hnames, ps.nodup, ps.shows_entries⟩

/-- The match of a path with three values, read by name, by place and step by step. -/
theorem views_agree_fileVersion :
    ∃ ps : Params, fileVersion.tryMatch "/files/a%2Fb/c/7".toList = .ok (some ps) ∧
      ps.get? "dir".toList = some "a/b".toList ∧ ps.getAt 2 = .ok "7".toList ∧
      (ps.cursor.skip 1).remaining = 2 := by
  let ps : Params := ⟨[("dir".toList, "a/b".toList), ("name".toList, "c".toList),
    ("version".toList, "7".toList)], by decide⟩
  have h : fileVersion.tryMatch "/files/a%2Fb/c/7".toList = .ok (some ps) := by decide +kernel
  obtain ⟨pairs, -, -, hshows⟩ := fileVersion.views_agree h
  obtain rfl : ps.entries = pairs := ((hshows.hasPairs ps.entries).mp (by decide +kernel))
  exact ⟨ps, h, (hshows.get? _ _).mpr (by decide), hshows.getAt 2 (by decide),
    hshows.remaining 1⟩

end Template

end RouteTemplate
