import RouteTemplate.Load.Convert
import RouteTemplate.Proofs.Numeral
import RouteTemplate.Proofs.RoundTrip

/-!
# RouteTemplate.Proofs.ScalarLoad — scalars that go through a path

A template with one parameter builds a path from one scalar, and the match of that path has the text
of the scalar as its only value.  What can be loaded from it depends on this text alone
(`Template.brings_of_load`): a whole number comes out as itself in every type that holds it and in
no other, and truth values, characters and texts come out as they went in
(`Template.load_of_build`).
-/

namespace RouteTemplate

/-! ### One text -/

namespace Load

theorem Cell.load_int (t : IntType) (n : Int) :
    (Cell.int t).load (ParamValue.intText n) =
      if t.Holds n then .ok (.int n) else .error (.invalidValue (ParamValue.intText n) t.name) := by
  rw [Cell.load, readInt?_intText]
  by_cases h : t.Holds n
  · rw [if_pos h, if_pos h]
    rfl
  · rw [if_neg h, if_neg h]
    rfl

theorem Cell.load_bool (b : Bool) : Cell.bool.load (ParamValue.bool b).text = .ok (.bool b) := by
  cases b <;> rfl

/-- The only value of a match is all that a cell looks at. -/
theorem Target.load_one {p : Params} {value : List Char} (h : p.values = [value]) (c : Cell) :
    (Target.one c).load p = c.load value := by
  obtain ⟨e, he, rfl⟩ := List.map_eq_singleton_iff.mp h
  have hsingle : single p = .ok e.2 := by rw [single, he]
  cases c <;> simp only [Target.load, hsingle]
  rfl

end Load

/-! ### Paths -/

namespace Template

variable (t : Template)

open Load (Cell Loaded Target)

/-- A scalar for the only parameter comes out of a target with an outcome: in whatever way it is
supplied, there is a path, the path matches, and loading the match has the outcome. -/
def Brings (x : Scalar) (target : Target) (outcome : Except LoadError Loaded) : Prop :=
  ∀ s : Supply, s.given t = [some x.value] →
    ∃ path ps, s.build t = .ok path ∧ t.params? path = some ps ∧ target.load ps = outcome

variable {t}

/-- A text that is not empty comes out of a cell as the cell loads it. -/
theorem brings_of_load (h : t.paramCount = 1) {x : Scalar} (hne : x.value.text ≠ []) {c : Cell}
    {outcome : Except LoadError Loaded} (ho : c.load x.value.text = outcome) :
    t.Brings x (.one c) outcome := by
  intro s hs
  have hbuild : s.build t = .ok (t.pathOf [x.value.text]) :=
    (Supply.build_eq_pathOf_iff t s).mpr ⟨[x.value], hs, rfl⟩
  have hl : [x.value.text].length = t.paramCount := h.symm
  obtain ⟨ps, hn, hv⟩ := t.exists_params hl
  have hm := t.tryMatch_pathOf hl (List.forall_mem_singleton.mpr hne) hn hv
  refine ⟨_, ps, hbuild, t.params?_eq_some_iff.mpr hm, ?_⟩
  rw [Target.load_one hv, ho]

theorem brings_int (h : t.paramCount = 1) (source : IntType) (n : Int) (hn : source.Holds n)
    (target : IntType) :
    t.Brings (.int source n hn) (.one (.int target))
      (if target.Holds n then .ok (.int n)
        else .error (.invalidValue (ParamValue.intText n) target.name)) := by
  refine brings_of_load h ?_ ?_
  · rw [Scalar.text_int]
    exact ParamValue.intText_ne_nil n
  · rw [Scalar.text_int, Cell.load_int]

/-- **Scalars round-trip.**  A scalar can be supplied for the only parameter of a template, in order
or by name, and every path that is built from it matches.  A number of any type of whole numbers
loads as itself into the types that hold it, and is refused as an invalid value by the others; a
truth value, a character and a text that is not empty load as themselves. -/
theorem load_of_build (h : t.paramCount = 1) :
    (∀ x : Scalar, (Supply.inOrder [.scalar x]).given t = [some x.value] ∧
      (Supply.named (.pairs (t.names.zip [.scalar x]))).given t = [some x.value]) ∧
    (∀ (source : IntType) (n : Int) (hn : source.Holds n) (target : IntType),
      (target.Holds n → t.Brings (.int source n hn) (.one (.int target)) (.ok (.int n))) ∧
      (¬ target.Holds n → t.Brings (.int source n hn) (.one (.int target))
        (.error (.invalidValue (ParamValue.intText n) target.name)))) ∧
    (∀ b : Bool, t.Brings (.bool b) (.one .bool) (.ok (.bool b))) ∧
    (∀ c : Char, t.Brings (.char c) (.one .char) (.ok (.char c))) ∧
    ∀ text : List Char, text ≠ [] → t.Brings (.text text) (.one .text) (.ok (.text text)) := by
  have hone : ∀ a : Argument, [a].length = t.paramCount := fun _ => h.symm
  refine ⟨fun x => ⟨?_, ?_⟩, fun source n hn target => ⟨?_, ?_⟩, fun b => ?_, fun c => ?_,
    fun text hne => ?_⟩
  · exact Supply.given_inOrder t (hone _)
  · exact Supply.given_pairs t (hone _)
  · intro ht
    have hb := brings_int h source n hn target
    rwa [if_pos ht] at hb
  · intro ht
    have hb := brings_int h source n hn target
    rwa [if_neg ht] at hb
  · refine brings_of_load h ?_ (Cell.load_bool b)
    cases b <;> decide
  · exact brings_of_load (x := .char c) h (List.cons_ne_nil c []) rfl
  · exact brings_of_load (x := .text text) h hne rfl

/-- The least number of 64 bits does not come out of a type without negative numbers, and a slash
does not end its segment. -/
theorem load_of_build_userPage :
    userPage.paramCount = 1 ∧
      userPage.Brings (.int .i64 (-9223372036854775808) (by decide)) (.one (.int .i64))
        (.ok (.int (-9223372036854775808))) ∧
      userPage.Brings (.int .i64 (-9223372036854775808) (by decide)) (.one (.int .u64))
        (.error (.invalidValue "-9223372036854775808".toList "u64")) ∧
      userPage.Brings (.char '/') (.one .char) (.ok (.char '/')) ∧
      userPage.Brings (.text "a b".toList) (.one .text) (.ok (.text "a b".toList)) := by
  have h : userPage.paramCount = 1 := by decide
  obtain ⟨-, hint, -, hchar, htext⟩ := load_of_build h
  have hleast := hint .i64 (-9223372036854775808) (by decide)
  exact ⟨h, (hleast .i64).1 (by decide), (hleast .u64).2 (by decide), hchar '/',
    htext "a b".toList (by decide)⟩

end Template

end RouteTemplate
