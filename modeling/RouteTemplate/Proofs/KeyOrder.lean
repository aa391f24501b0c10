import Mathlib.Data.List.Perm.Basic
import Mathlib.Data.List.Nodup
import RouteTemplate.Load.Convert

/-!
# RouteTemplate.Proofs.KeyOrder — items in the order of their keys

Items are put into their order one by one.  Where their keys differ, it does not matter in which
order they come (`orderedBy_perm`).
-/

namespace RouteTemplate.Load

section Keys

variable {α : Type} {key : α → List Int} {x y : α}

theorem insertByKey_of_lt (h : key x < key y) (ys : List α) :
    insertByKey key x (y :: ys) = x :: y :: ys := by
  have hne : key x ≠ key y := by
    intro heq
    rw [heq] at h
    exact List.lt_irrefl _ h
  rw [insertByKey, if_neg hne, if_pos h]

theorem insertByKey_of_eq (h : key x = key y) (ys : List α) :
    insertByKey key x (y :: ys) = x :: ys := by
  rw [insertByKey, if_pos h]

theorem insertByKey_of_gt (h : key y < key x) (ys : List α) :
    insertByKey key x (y :: ys) = y :: insertByKey key x ys := by
  have hne : key x ≠ key y := by
    intro heq
    rw [heq] at h
    exact List.lt_irrefl _ h
  rw [insertByKey, if_neg hne, if_neg (List.lt_asymm h)]

theorem key_trichotomy (a b : List Int) : a < b ∨ a = b ∨ b < a := by
  by_cases hlt : a < b
  · exact .inl hlt
  · by_cases hgt : b < a
    · exact .inr (.inr hgt)
    · exact .inr (.inl (List.le_antisymm (List.not_lt.mp hgt) (List.not_lt.mp hlt)))

/-- Two items with different keys may be put in either way round: the case of the lesser one. -/
theorem insertByKey_comm_of_lt (h : key x < key y) (zs : List α) :
    insertByKey key x (insertByKey key y zs) = insertByKey key y (insertByKey key x zs) := by
  induction zs with
  | nil =>
    rw [insertByKey, insertByKey, insertByKey_of_lt h, insertByKey_of_gt h, insertByKey]
  | cons z zs ih =>
    rcases key_trichotomy (key y) (key z) with hyz | hyz | hyz
    · have hxz := List.lt_trans h hyz
      rw [insertByKey_of_lt hyz, insertByKey_of_lt h, insertByKey_of_lt hxz, insertByKey_of_gt h,
        insertByKey_of_lt hyz]
    · have hxz : key x < key z := hyz ▸ h
      rw [insertByKey_of_eq hyz, insertByKey_of_lt h, insertByKey_of_lt hxz, insertByKey_of_gt h,
        insertByKey_of_eq hyz]
    · rw [insertByKey_of_gt hyz]
      rcases key_trichotomy (key x) (key z) with hxz | hxz | hxz
      · rw [insertByKey_of_lt hxz, insertByKey_of_lt hxz, insertByKey_of_gt h,
          insertByKey_of_gt hyz]
      · rw [insertByKey_of_eq hxz, insertByKey_of_eq hxz, insertByKey_of_gt h]
      · rw [insertByKey_of_gt hxz, insertByKey_of_gt hxz, insertByKey_of_gt hyz, ih]

theorem insertByKey_comm (h : key x ≠ key y) (zs : List α) :
    insertByKey key x (insertByKey key y zs) = insertByKey key y (insertByKey key x zs) := by
  rcases key_trichotomy (key x) (key y) with hlt | heq | hgt
  · exact insertByKey_comm_of_lt hlt zs
  · exact absurd heq h
  · exact (insertByKey_comm_of_lt hgt zs).symm

/-- Items whose keys differ have one order, however they come. -/
theorem orderedBy_perm {xs ys : List α} (h : xs.Perm ys) (hd : (xs.map key).Nodup) :
    orderedBy key xs = orderedBy key ys := by
  refine h.foldl_eq' (fun x hx y hy zs => ?_) []
  by_cases heq : key x = key y
  · rw [List.inj_on_of_nodup_map hd hx hy heq]
  · exact insertByKey_comm (Ne.symm heq) zs

end Keys

theorem orderKey_text_injective {s t : List Char}
    (h : (Loaded.text s).orderKey = (Loaded.text t).orderKey) : s = t := by
  rw [Loaded.orderKey, Loaded.orderKey] at h
  refine List.map_injective_iff.mpr (fun c d hcd => ?_) h
  exact Char.toNat_inj.mp (Int.ofNat.inj hcd)

/-- Different names have different keys. -/
theorem nodup_map_orderKey_text {α : Type} {es : List (List Char × α)}
    (hd : (es.map Prod.fst).Nodup) : (es.map fun e => (Loaded.text e.1).orderKey).Nodup := by
  have hkeys := hd.map (f := fun n => (Loaded.text n).orderKey) fun _ _ => orderKey_text_injective
  rwa [List.map_map] at hkeys

end RouteTemplate.Load
