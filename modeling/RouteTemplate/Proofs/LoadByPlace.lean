import RouteTemplate.Proofs.Outcome
import RouteTemplate.Proofs.RecordLoad
import RouteTemplate.Proofs.ScalarLoad

/-!
# RouteTemplate.Proofs.LoadByPlace — loading sequences and single values

A sequence takes the values of a match one by one, and how many there are counts only at the end
(`loadSequence_eq`).  So the first value that does not convert decides the error, and a length error
means that all values with a place converted (`Target.load_by_place`).  A type that wraps a single
other one is no sequence of length one: it wants one value, as the type in it does.  A scalar is
read from the only value in five ways, which come to the same; the three of them that want one value
refuse any other number unread (`Target.load_scalar_alike`).
-/

namespace RouteTemplate

@[simp] theorem Params.length_values (p : Params) : p.values.length = p.length := List.length_map _

namespace Load

/-- The first item that is not converted decides the error. -/
theorem mapM_eq_error_iff {α β : Type} {f : α → Except LoadError β} {xs : List α}
    {err : LoadError} : xs.mapM f = .error err ↔ FirstError f xs err := by
  induction xs with
  | nil => exact iff_of_false (fun h => nomatch h) (not_firstError_nil err)
  | cons x xs ih =>
    rw [mapM_cons_eq, bind_eq_error_iff, firstError_cons_iff, ← ih]
    refine or_congr_right ?_
    rw [← exists_and_right]
    refine exists_congr fun y => and_congr_right fun _ => ?_
    rw [bind_eq_error_iff]
    refine or_iff_left ?_
    rintro ⟨ys, -, h⟩
    cases h

/-! ### Sequences -/

/-- A value as the cell at its place. -/
def loadPlaced (e : Cell × List Char) : Except LoadError Loaded := e.1.load e.2

/-- The error of a sequence of fixed length that has another number of values, all of which convert
as far as they have a place. -/
def SequenceName.lengthError (name : SequenceName) (count length : Nat) : LoadError :=
  if count < length then .tooFew count (name.shortfall length)
  else .tooMany count length "sequence"

theorem message_tooMany (count length : Nat) (container : String) :
    (LoadError.tooMany count length container).message =
      s!"invalid length {count}, expected " ++
        (s!"{length} element" ++ (if length = 1 then "" else "s") ++ " in " ++ container) := by
  have h : (LoadError.tooMany count length container).message =
      s!"invalid length {count}, expected {length} element" ++ (if length = 1 then "" else "s")
        ++ " in " ++ container := rfl
  rw [h]
  apply String.toList_injective
  simp only [String.toList_append, List.append_assoc]

theorem SequenceName.message_lengthError (name : SequenceName) (count length : Nat) :
    ∃ expected, (name.lengthError count length).message =
      s!"invalid length {count}, expected " ++ expected := by
  rw [lengthError]
  split
  · exact ⟨name.shortfall length, rfl⟩
  · exact ⟨_, message_tooMany count length "sequence"⟩

theorem loadAll_eq_mapM (c : Cell) (vs : List (List Char)) :
    loadAll c vs = vs.mapM fun v => c.load v := by
  induction vs with
  | nil => rfl
  | cons v vs ih =>
    rw [loadAll, ih, mapM_cons_eq]
    cases c.load v with
    | error err => rfl
    | ok l => cases vs.mapM fun v => c.load v <;> rfl

/-- The values that have a place are converted, and then it is seen whether there are enough. -/
theorem loadEach_eq_mapM (cs : List Cell) (vs : List (List Char)) :
    loadEach cs vs = ((cs.zip vs).mapM loadPlaced).map fun ls =>
      if vs.length < cs.length then none else some (ls, vs.drop cs.length) := by
  induction cs generalizing vs with
  | nil => rfl
  | cons c cs ih =>
    cases vs with
    | nil => rfl
    | cons v vs =>
      rw [loadEach, ih, List.zip_cons_cons, mapM_cons_eq, loadPlaced]
      cases c.load v with
      | error err => rfl
      | ok l =>
        cases (cs.zip vs).mapM loadPlaced with
        | error err => rfl
        | ok ls => by_cases h : vs.length < cs.length <;> simp [h, Except.map, bind, Except.bind]

/-- A sequence converts the values that have a place, and only then counts. -/
theorem loadSequence_eq (name : SequenceName) (cs : List Cell) (vs : List (List Char)) :
    loadSequence name cs vs = (cs.zip vs).mapM loadPlaced >>= fun ls =>
      if vs.length = cs.length then .ok (.list ls)
      else .error (name.lengthError vs.length cs.length) := by
  rw [loadSequence, loadEach_eq_mapM]
  cases (cs.zip vs).mapM loadPlaced with
  | error err => rfl
  | ok ls =>
    change _ = if vs.length = cs.length then _ else _
    rw [SequenceName.lengthError]
    rcases Nat.lt_trichotomy vs.length cs.length with h | h | h
    · simp [Except.map, h, Nat.ne_of_lt h]
    · simp [Except.map, h, List.drop_eq_nil_of_le (Nat.le_of_eq h)]
    · have hdrop : vs.drop cs.length ≠ [] := by
        rw [ne_eq, List.drop_eq_nil_iff]
        omega
      obtain ⟨v, rest, hrest⟩ := List.exists_cons_of_ne_nil hdrop
      simp [Except.map, hrest, Nat.not_lt_of_gt h, Nat.ne_of_gt h]

namespace Target

variable {p : Params}

theorem load_sequence_eq_ok_iff {name : SequenceName} {cs : List Cell} {l : Loaded} :
    (sequence name cs).load p = .ok l ↔
      p.length = cs.length ∧ ∃ ls, l = .list ls ∧
        List.Forall₂ (fun e x => loadPlaced e = .ok x) (cs.zip p.values) ls := by
  rw [load, loadSequence_eq, bind_eq_ok_iff, Params.length_values]
  simp only [mapM_eq_ok_iff]
  by_cases h : p.length = cs.length
  · simp only [h, if_true, Except.ok.injEq, true_and]
    exact exists_congr fun ls => and_comm.trans (and_congr_left fun _ => eq_comm)
  · simp [h]

theorem load_sequence_eq_error_iff {name : SequenceName} {cs : List Cell} {err : LoadError} :
    (sequence name cs).load p = .error err ↔
      FirstError loadPlaced (cs.zip p.values) err ∨
        p.length ≠ cs.length ∧ (∀ e ∈ cs.zip p.values, ∃ x, loadPlaced e = .ok x) ∧
          err = name.lengthError p.length cs.length := by
  rw [load, loadSequence_eq, bind_eq_error_iff, mapM_eq_error_iff, Params.length_values]
  refine or_congr_right ?_
  have hall : (∃ ls, (cs.zip p.values).mapM loadPlaced = .ok ls) ↔
      ∀ e ∈ cs.zip p.values, ∃ x, loadPlaced e = .ok x := by
    simp only [mapM_eq_ok_iff]
    exact exists_forall₂_iff
  rw [← hall]
  by_cases h : p.length = cs.length
  · simp [h]
  · simp [h, eq_comm]

theorem load_list_eq_ok_iff {c : Cell} {l : Loaded} :
    (list c).load p = .ok l ↔
      ∃ ls, l = .list ls ∧ List.Forall₂ (fun v x => c.load v = .ok x) p.values ls := by
  rw [load, loadAll_eq_mapM, map_eq_ok_iff]
  simp only [mapM_eq_ok_iff]
  exact exists_congr fun ls => and_comm.trans (and_congr_left fun _ => eq_comm)

theorem load_list_eq_error_iff {c : Cell} {err : LoadError} :
    (list c).load p = .error err ↔ FirstError (fun v => c.load v) p.values err := by
  rw [load, loadAll_eq_mapM, map_eq_error_iff, mapM_eq_error_iff]

/-- **Sequences are loaded by place.**  A sequence of fixed length loads exactly when there are as
many values as cells and each value converts to the cell at its place, and it holds these
conversions in order.  Otherwise the error is that of the first value with a place that does not
convert; if they all convert, it is the wrong number of values.  A list takes any number of values,
and loads or fails likewise. -/
theorem load_by_place (p : Params) :
    (∀ (name : SequenceName) (cs : List Cell),
      (∀ l, (sequence name cs).load p = .ok l ↔
        p.length = cs.length ∧ ∃ ls, l = .list ls ∧
          List.Forall₂ (fun e x => loadPlaced e = .ok x) (cs.zip p.values) ls) ∧
      (∀ err, (sequence name cs).load p = .error err ↔
        FirstError loadPlaced (cs.zip p.values) err ∨
          p.length ≠ cs.length ∧ (∀ e ∈ cs.zip p.values, ∃ x, loadPlaced e = .ok x) ∧
            err = name.lengthError p.length cs.length) ∧
      ∃ expected, (name.lengthError p.length cs.length).message =
        s!"invalid length {p.length}, expected " ++ expected) ∧
    ∀ c : Cell,
      (∀ l, (list c).load p = .ok l ↔
        ∃ ls, l = .list ls ∧ List.Forall₂ (fun v x => c.load v = .ok x) p.values ls) ∧
      ∀ err, (list c).load p = .error err ↔ FirstError (fun v => c.load v) p.values err := by
  refine ⟨fun name cs => ⟨fun l => ?_, fun err => ?_, ?_⟩, fun c => ⟨fun l => ?_, fun err => ?_⟩⟩
  · exact load_sequence_eq_ok_iff
  · exact load_sequence_eq_error_iff
  · exact name.message_lengthError p.length cs.length
  · exact load_list_eq_ok_iff
  · exact load_list_eq_error_iff

/-- Of three values for two places the second does not convert, which counts before their number. -/
theorem load_by_place_pair :
    (sequence (.named "Pair") [.text, .int .i32]).load
        ⟨[("a".toList, "u".toList), ("b".toList, "x".toList), ("c".toList, "9".toList)],
          by decide⟩ = .error (.invalidValue "x".toList "i32") ∧
      (sequence (.named "Pair") [.text, .int .i32]).load
        ⟨[("a".toList, "u".toList), ("b".toList, "-1".toList), ("c".toList, "9".toList)],
          by decide⟩ = .error (.tooMany 3 2 "sequence") := by
  constructor
  · obtain ⟨hsequence, -⟩ := load_by_place
      ⟨[("a".toList, "u".toList), ("b".toList, "x".toList), ("c".toList, "9".toList)], by decide⟩
    obtain ⟨-, herror, -⟩ := hsequence (.named "Pair") [.text, .int .i32]
    refine (herror _).mpr (.inl ⟨[(.text, "u".toList)], (.int .i32, "x".toList), [], rfl, ?_, rfl⟩)
    exact List.forall_mem_singleton.mpr ⟨.text "u".toList, rfl⟩
  · obtain ⟨hsequence, -⟩ := load_by_place
      ⟨[("a".toList, "u".toList), ("b".toList, "-1".toList), ("c".toList, "9".toList)], by decide⟩
    obtain ⟨-, herror, -⟩ := hsequence (.named "Pair") [.text, .int .i32]
    refine (herror _).mpr (.inr ⟨by decide, ?_, rfl⟩)
    exact List.forall_mem_cons.mpr ⟨⟨.text "u".toList, rfl⟩,
      List.forall_mem_singleton.mpr ⟨.int (-1), rfl⟩⟩

end Target

/-! ### Scalars -/

theorem single_of_length_ne {p : Params} (hp : p.length ≠ 1) :
    single p = .error (.notSingle p.length) := by
  unfold single
  split
  · rename_i e h
    exact absurd (congrArg List.length h) hp
  · rfl

/-- The cells of scalars: numbers, truth values, characters, texts, and enumerations whose variants
carry nothing. -/
inductive Cell.IsScalar : Cell → Prop
  | int (type : IntType) : IsScalar (.int type)
  | float (type : FloatType) : IsScalar (.float type)
  | bool : IsScalar .bool
  | char : IsScalar .char
  | text : IsScalar .text
  | enumeration {e : Enumeration} (h : ∀ v ∈ e.variants, v.payload = .nothing) :
    IsScalar (.enumeration e)

/-- The ways in which one scalar is loaded. -/
inductive Wrapping where
  | bare
  | optional
  | wrapped
  | tuple
  | list

namespace Wrapping

/-- The target that loads a cell in some way. -/
def target (c : Cell) : Wrapping → Target
  | .bare => .one c
  | .optional => .one (.option c)
  | .wrapped => .wrapped (.one c)
  | .tuple => .sequence .tuple [c]
  | .list => .list c

/-- A loaded scalar as it is found in the target. -/
def loaded (l : Loaded) : Wrapping → Loaded
  | .bare => l
  | .optional => .present l
  | .wrapped => .wrapped l
  | .tuple => .list [l]
  | .list => .list [l]

theorem loaded_injective (w : Wrapping) {l l' : Loaded} (h : w.loaded l = w.loaded l') :
    l = l' := by
  cases w with
  | bare => exact h
  | optional => exact Loaded.present.inj h
  | wrapped => exact Loaded.wrapped.inj h
  | tuple => exact (List.cons.inj (Loaded.list.inj h)).1
  | list => exact (List.cons.inj (Loaded.list.inj h)).1

variable {p : Params} {c : Cell}

/-- The only value is loaded as a text, and then wrapped. -/
theorem load_target {v : List Char} (hv : p.values = [v]) (w : Wrapping) :
    (w.target c).load p = (c.load v).map fun l => w.loaded l := by
  cases w with
  | bare =>
    rw [target, Target.load_one hv]
    cases c.load v <;> rfl
  | optional => exact Target.load_one hv (.option c)
  | wrapped =>
    have hone := Target.load_one hv c
    exact congrArg (Except.map Loaded.wrapped) hone
  | tuple =>
    rw [target, Target.load, loadSequence_eq, hv, List.zip_cons_cons, mapM_cons_eq, loadPlaced]
    cases c.load v <;> rfl
  | list =>
    rw [target, Target.load, loadAll_eq_mapM, hv, mapM_cons_eq]
    cases c.load v <;> rfl

/-- Three of the ways want one value, and look at none before it is the only one. -/
theorem load_target_eq_error (hc : c.IsScalar) (hp : p.length ≠ 1) :
    ∀ w ∈ [bare, optional, wrapped], (w.target c).load p = .error (.notSingle p.length) := by
  have hbare : (Target.one c).load p = .error (.notSingle p.length) := by
    cases hc <;> simp only [Target.load, single_of_length_ne hp]
  have hoptional : (Target.one (.option c)).load p = .error (.notSingle p.length) := by
    simp only [Target.load, single_of_length_ne hp]
  have hwrapped := congrArg (Except.map Loaded.wrapped) hbare
  intro w hw
  simp only [List.mem_cons, List.not_mem_nil, or_false] at hw
  rcases hw with rfl | rfl | rfl
  · exact hbare
  · exact hoptional
  · exact hwrapped

/-- No other number of values gives one scalar. -/
theorem load_target_ne_ok (hc : c.IsScalar) (hp : p.length ≠ 1) (w : Wrapping) (l : Loaded) :
    (w.target c).load p ≠ .ok (w.loaded l) := by
  have herror := load_target_eq_error hc hp
  intro h
  cases w with
  | bare => rw [herror bare (by simp)] at h; cases h
  | optional => rw [herror optional (by simp)] at h; cases h
  | wrapped => rw [herror wrapped (by simp)] at h; cases h
  | tuple => exact hp (Target.load_sequence_eq_ok_iff.mp h).1
  | list =>
    obtain ⟨ls, hls, hvalues⟩ := Target.load_list_eq_ok_iff.mp h
    obtain rfl := Loaded.list.inj hls
    have hlength := hvalues.length_eq
    rw [Params.length_values] at hlength
    exact hp hlength

end Wrapping

/-- **All ways of loading one scalar agree.**  Bare, optional, wrapped, as a tuple of one and as a
list of one, a scalar loads as the same value or not at all.  The only value of a match either loads
in all five ways or fails in all of them with the same error.  Any other number of values is refused
by the first three, whatever the values are. -/
theorem Target.load_scalar_alike {c : Cell} (hc : c.IsScalar) (p : Params) :
    (∀ (w w' : Wrapping) (l : Loaded),
      (w.target c).load p = .ok (w.loaded l) ↔ (w'.target c).load p = .ok (w'.loaded l)) ∧
    (p.length = 1 →
      (∃ l, ∀ w : Wrapping, (w.target c).load p = .ok (w.loaded l)) ∨
        ∃ err, ∀ w : Wrapping, (w.target c).load p = .error err) ∧
    (p.length ≠ 1 →
      ∃ err : LoadError,
        err.message = s!"invalid length {p.length}, expected exactly one path parameter" ∧
          ∀ w ∈ [Wrapping.bare, .optional, .wrapped], (w.target c).load p = .error err) := by
  refine ⟨fun w w' l => ?_, fun hp => ?_, fun hp => ?_⟩
  · by_cases hp : p.length = 1
    · obtain ⟨v, hv⟩ := List.length_eq_one_iff.mp (p.length_values.trans hp)
      rw [w.load_target hv, w'.load_target hv, map_eq_ok_iff, map_eq_ok_iff]
      refine exists_congr fun a => and_congr_right fun _ => ?_
      exact ⟨fun h => by rw [w.loaded_injective h], fun h => by rw [w'.loaded_injective h]⟩
    · exact iff_of_false (w.load_target_ne_ok hc hp l) (w'.load_target_ne_ok hc hp l)
  · obtain ⟨v, hv⟩ := List.length_eq_one_iff.mp (p.length_values.trans hp)
    cases hload : c.load v with
    | ok l => exact .inl ⟨l, fun w => by rw [w.load_target hv, hload]; rfl⟩
    | error err => exact .inr ⟨err, fun w => by rw [w.load_target hv, hload]; rfl⟩
  · exact ⟨.notSingle p.length, rfl, Wrapping.load_target_eq_error hc hp⟩

/-- A number that is too great fails alike in all ways, and two numbers are one too many. -/
theorem Target.load_scalar_alike_port :
    (∀ w : Wrapping, (w.target (.int .u8)).load ⟨[("port".toList, "300".toList)], by decide⟩ =
      .error (.invalidValue "300".toList "u8")) ∧
    ∃ err : LoadError,
      err.message = "invalid length 2, expected exactly one path parameter" ∧
        ∀ w ∈ [Wrapping.bare, .optional, .wrapped], (w.target (.int .u8)).load
          ⟨[("port".toList, "30".toList), ("page".toList, "1".toList)], by decide⟩ =
            .error err := by
  constructor
  · obtain ⟨-, hone, -⟩ := load_scalar_alike (.int .u8)
      ⟨[("port".toList, "300".toList)], by decide⟩
    rcases hone rfl with ⟨l, hl⟩ | ⟨err, herr⟩
    · exact nomatch hl .bare
    · obtain rfl : .invalidValue "300".toList "u8" = err := Except.error.inj (herr .bare)
      exact herr
  · obtain ⟨-, -, hseveral⟩ := load_scalar_alike (.int .u8)
      ⟨[("port".toList, "30".toList), ("page".toList, "1".toList)], by decide⟩
    exact hseveral (by decide)

end Load

end RouteTemplate
