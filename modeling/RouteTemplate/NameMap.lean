/-!
# RouteTemplate.NameMap — values by name

A map from names to values in which an insertion replaces the value that the name has.
-/

namespace RouteTemplate

/-- A map from names to values. -/
structure NameMap (α : Type) where
  /-- The entries, one for each name. -/
  entries : List (List Char × α)
  nodup : (entries.map Prod.fst).Nodup

namespace NameMap

variable {α : Type}

/-- The map without entries. -/
def empty : NameMap α := ⟨[], List.nodup_nil⟩

/-- The value of a name. -/
def get? (m : NameMap α) (name : List Char) : Option α := m.entries.lookup name

/-- Entries of which the one of a name has a new value, if there is one. -/
def replace (name : List Char) (value : α) : List (List Char × α) → List (List Char × α)
  | [] => []
  | (n, v) :: es => if n = name then (n, value) :: es else (n, v) :: replace name value es

@[simp] theorem map_fst_replace (name : List Char) (value : α) (es : List (List Char × α)) :
    (replace name value es).map Prod.fst = es.map Prod.fst := by
  induction es with
  | nil => rfl
  | cons e es ih => simp only [replace]; split <;> simp [ih]

/-- The map in which a name has a value. -/
def insert (m : NameMap α) (name : List Char) (value : α) : NameMap α :=
  if h : name ∈ m.entries.map Prod.fst then
    ⟨replace name value m.entries, by simpa using m.nodup⟩
  else
    ⟨m.entries ++ [(name, value)], by
      rw [List.map_append, List.nodup_append]
      refine ⟨m.nodup, by simp, ?_⟩
      intro a ha b hb
      simp only [List.map_cons, List.map_nil, List.mem_singleton] at hb
      exact fun hab => h (by rw [← hb, ← hab]; exact ha)⟩

/-- The map that results from inserting pairs in order. -/
def ofList (pairs : List (List Char × α)) : NameMap α :=
  pairs.foldl (fun m p => m.insert p.1 p.2) empty

/-- The entries in the order of their names. -/
def sorted (m : NameMap α) : List (List Char × α) :=
  m.entries.mergeSort fun a b => !decide (b.1 < a.1)

theorem lookup_replace (name : List Char) (value : α) (es : List (List Char × α))
    (h : name ∈ es.map Prod.fst) (n : List Char) :
    (replace name value es).lookup n = if n = name then some value else es.lookup n := by
  induction es with
  | nil => simp at h
  | cons e es ih =>
    obtain ⟨a, v⟩ := e
    simp only [replace]
    by_cases ha : a = name
    · subst ha
      by_cases hn : n = a
      · simp [hn]
      · have : (n == a) = false := by simp [hn]
        simp [List.lookup_cons, hn, this]
    · have h' : name ∈ es.map Prod.fst := by
        simp only [List.map_cons, List.mem_cons] at h
        exact h.resolve_left fun e => ha e.symm
      rw [if_neg ha, List.lookup_cons, List.lookup_cons, ih h']
      by_cases hn : n = a
      · have : n ≠ name := fun e => ha (hn.symm.trans e)
        simp [hn, ha]
      · have : (n == a) = false := by simp [hn]
        simp [this]

/-- An insertion gives the name its value and leaves every other name alone. -/
theorem get?_insert (m : NameMap α) (name : List Char) (value : α) (n : List Char) :
    (m.insert name value).get? n = if n = name then some value else m.get? n := by
  unfold insert get?
  split
  · rename_i h
    exact lookup_replace name value m.entries h n
  · rename_i h
    simp only [List.lookup_append]
    by_cases hn : n = name
    · subst hn
      have : m.entries.lookup n = none := by
        rw [List.lookup_eq_none_iff]
        intro p hp
        have : n ≠ p.1 := fun e => h (by rw [e]; exact List.mem_map_of_mem hp)
        simp [this]
      simp [this]
    · have : (n == name) = false := by simp [hn]
      simp [List.lookup_cons, hn, this]

end NameMap

end RouteTemplate
