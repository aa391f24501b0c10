import RouteTemplate.Proofs.RoundTrip
import RouteTemplate.Proofs.Scanning
import RouteTemplate.Typed.Route

/-!
# RouteTemplate.Proofs.TypedRoute — typed routes and their templates

A typed route hands its arguments to its template in order and takes the values of a match in order,
without a look-up by name.  `Declaration.Agrees` says that this is what its template does by name,
and it holds for every declaration that is accepted (`agrees_of_ofTokens`).
-/

namespace RouteTemplate.Typed

/-! ### What is generated -/

/-- The texts of a constant in an item. -/
def Item.constant? (name : String) : Item → Option (List (List Char))
  | .record .. => none
  | .implementation _ _ members => members.findSome? fun
    | .texts n values => if n = name then some values else none
    | _ => none

/-- The arguments of a function in an item. -/
def Item.arguments? (name : String) : Item → Option (List (List Char))
  | .record .. => none
  | .implementation _ _ members => members.findSome? fun
    | .function n _ _ _ args => if n = name then some args else none
    | _ => none

/-- The names of the fields of an item. -/
def Item.fieldNames : Item → List (List Char)
  | .record _ _ _ fields => fields.map Prod.snd
  | .implementation .. => []

namespace Declaration

/-- A declaration is in step with a template. -/
structure Agrees (d : Declaration) (t : Template) : Prop where
  /-- The template of the route compiles, and to this one. -/
  compiled : d.compiled = .ok t
  /-- The generated constant, arguments and fields have one entry for each parameter, in order. -/
  constant : d.implementationItem.constant? "PARAM_NAMES" = some t.names
  arguments : d.implementationItem.arguments? "build" =
    some (receiver :: t.names.map Naming.snakeCase)
  fieldNames : d.paramsItem.fieldNames = t.names.map Naming.snakeCase
  /-- One argument for each parameter gives the path that the template gives by name. -/
  build : ∀ {args : List Argument} {values : List ParamValue},
    args.map Argument.value? = values.map some → args.length = t.paramCount →
      ∃ path, d.build values = .ok path ∧ t.build (.pairs (t.names.zip args)) = .ok path
  /-- Without parameters there is one path, the template as it is written. -/
  build_static : t.names = [] → d.build [] = .ok d.template
  /-- A path has fields exactly when it has a match, and there is one for each parameter. -/
  no_fields : ∀ {path : List Char}, t.params? path = none → d.fields? path = .ok none
  fields : ∀ {path : List Char} {ps : Params}, t.params? path = some ps →
    ∃ fields, d.fields? path = .ok (some fields) ∧
      fields.map Prod.fst = t.names.map Naming.snakeCase ∧ fields.map Prod.snd = ps.values
  /-- The path that is built has the texts of its arguments in the fields. -/
  round_trip : ∀ {values : List ParamValue}, values.length = t.paramCount →
    (∀ v ∈ values, v.text ≠ []) →
      ∃ path fields, d.build values = .ok path ∧ d.fields? path = .ok (some fields) ∧
        fields.map Prod.fst = t.names.map Naming.snakeCase ∧
        fields.map Prod.snd = values.map ParamValue.text

/-! ### Building and matching -/

/-- Nothing runs dry when there is one value for each identifier. -/
theorem assign_eq_zip {is vs : List (List Char)} (hl : vs.length = is.length) :
    assign is vs = some (is.zip vs) := by
  induction is generalizing vs with
  | nil => rfl
  | cons i is ih =>
    obtain ⟨v, vs, rfl⟩ := List.exists_cons_of_length_eq_add_one hl
    rw [List.length_cons, List.length_cons, Nat.add_right_cancel_iff] at hl
    rw [assign, ih hl]
    rfl

variable {d : Declaration} {t : Template}

theorem compiled_of_compile (h : Template.compile d.template = .ok t) : d.compiled = .ok t := by
  rw [compiled, h]

theorem idents_of_parameters (h : d.parameters = t.names.map fun n => ⟨n, Naming.snakeCase n⟩) :
    d.idents = t.names.map Naming.snakeCase := by
  rw [idents, h, List.map_map]
  rfl

/-- A template without parameters has one path, its text. -/
theorem pathOf_nil_of_names_eq_nil (h : t.names = []) : t.pathOf [] = t.text := by
  have hc : t.captures t.text = some [] := by
    rw [Template.captures, Template.isStatic, h, if_pos rfl]
    rfl
  exact t.filled_of_captures hc

/-- A typed route builds the path with the texts of its arguments. -/
theorem build_eq_pathOf (hc : Template.compile d.template = .ok t)
    (hp : d.parameters = t.names.map fun n => ⟨n, Naming.snakeCase n⟩) {values : List ParamValue}
    (hl : values.length = t.paramCount) :
    d.build values = .ok (t.pathOf (values.map ParamValue.text)) := by
  rw [build, compiled_of_compile hc]
  -- without parameters the template itself is given out, and no value is looked at
  by_cases hn : t.names = []
  · rw [Template.paramCount, hn] at hl
    obtain rfl := List.length_eq_zero_iff.mp hl
    rw [List.map_nil, List.map_nil, pathOf_nil_of_names_eq_nil hn, Template.text_of_compile hc, hp,
      hn]
    rfl
  · have hgiven : (Supply.inOrder (values.map .value)).given t = values.map some := by
      rw [Supply.given_inOrder t (by rw [List.length_map, hl]), List.map_map]
      rfl
    have hb : t.buildInOrder (values.map .value) = .ok (t.pathOf (values.map ParamValue.text)) :=
      (Supply.build_eq_pathOf_iff t (.inOrder (values.map .value))).mpr ⟨values, hgiven, rfl⟩
    rw [hp]
    simp only [List.isEmpty_map, List.isEmpty_iff, hn, hb, if_false]

theorem fields?_of_params?_eq_none (hc : Template.compile d.template = .ok t) {path : List Char}
    (hm : t.params? path = none) : d.fields? path = .ok none := by
  rw [fields?, compiled_of_compile hc]
  change Except.ok ((t.params? path).bind _) = _
  rw [hm, Option.bind_none]

/-- A match gives every identifier its value. -/
theorem fields?_of_params?_eq_some (hc : Template.compile d.template = .ok t)
    (hp : d.parameters = t.names.map fun n => ⟨n, Naming.snakeCase n⟩) {path : List Char}
    {ps : Params} (hm : t.params? path = some ps) :
    ∃ fields, d.fields? path = .ok (some fields) ∧
      fields.map Prod.fst = t.names.map Naming.snakeCase ∧ fields.map Prod.snd = ps.values := by
  obtain ⟨-, -, hn, -⟩ := t.params?_spec hm
  have hl : ps.values.length = (t.names.map Naming.snakeCase).length := by
    rw [t.length_values hn, List.length_map, Template.paramCount]
  refine ⟨(t.names.map Naming.snakeCase).zip ps.values, ?_, ?_, ?_⟩
  · rw [fields?, compiled_of_compile hc]
    change Except.ok ((t.params? path).bind _) = _
    rw [hm, Option.bind_some, idents_of_parameters hp, assign_eq_zip hl]
  · exact List.map_fst_zip (Nat.le_of_eq hl.symm)
  · exact List.map_snd_zip (Nat.le_of_eq hl)

/-- A template builds by name what a typed route builds in order. -/
theorem build_pairs_eq_pathOf {args : List Argument} {values : List ParamValue}
    (hv : args.map Argument.value? = values.map some) (hl : args.length = t.paramCount) :
    t.build (.pairs (t.names.zip args)) = .ok (t.pathOf (values.map ParamValue.text)) := by
  have hgiven := (Supply.given_pairs t hl).trans hv
  exact (Supply.build_eq_pathOf_iff t (.named _)).mpr ⟨values, hgiven, rfl⟩

/-- **Typed routes agree with their templates.**  The template of an accepted declaration compiles,
and everything the declaration generates is in step with it. -/
theorem agrees_of_ofTokens {ts : List Token} (h : Declaration.ofTokens ts = .ok d) :
    ∃ t, Template.compile d.template = .ok t ∧ d.Agrees t := by
  obtain ⟨t, hc, hp⟩ := compile_of_ofTokens h
  have hnames : d.parameters.map Parameter.name = t.names := by
    rw [hp, List.map_map]
    exact List.map_id _
  refine ⟨t, hc, ?_⟩
  constructor
  case compiled => exact compiled_of_compile hc
  case constant => exact congrArg some hnames
  case arguments => exact congrArg (fun is => some (receiver :: is)) (idents_of_parameters hp)
  case fieldNames =>
    rw [paramsItem, Item.fieldNames, List.map_map, ← idents_of_parameters hp]
    exact List.map_id _
  case build =>
    intro args values hv hl
    have hlen := Supply.length_of_given t _ ((Supply.given_pairs t hl).trans hv)
    exact ⟨_, build_eq_pathOf hc hp hlen, build_pairs_eq_pathOf hv hl⟩
  case build_static =>
    intro hn
    have hl : ([] : List ParamValue).length = t.paramCount := by
      rw [Template.paramCount, hn, List.length_nil, List.length_nil]
    rw [build_eq_pathOf hc hp hl, List.map_nil, pathOf_nil_of_names_eq_nil hn,
      Template.text_of_compile hc]
  case no_fields => exact fields?_of_params?_eq_none hc
  case fields => exact fields?_of_params?_eq_some hc hp
  case round_trip =>
    intro values hl hne
    have hlt : (values.map ParamValue.text).length = t.paramCount := by rw [List.length_map, hl]
    obtain ⟨ps, hn, hv⟩ := t.exists_params hlt
    have hm := t.params?_eq_some_iff.mpr
      (t.tryMatch_pathOf hlt (List.forall_mem_map.mpr hne) hn hv)
    obtain ⟨fields, hf, hfst, hsnd⟩ := fields?_of_params?_eq_some hc hp hm
    exact ⟨_, fields, build_eq_pathOf hc hp hl, hf, hfst, hsnd.trans hv⟩

/-- The declaration `UserPage = "/users/:userId"`. -/
def userPage : Declaration :=
  ⟨[], .inherited, "UserPage".toList, "/users/:userId".toList,
    [⟨"userId".toList, "user_id".toList⟩]⟩

theorem agrees_userPage :
    ∃ ts t, Declaration.ofTokens ts = .ok userPage ∧
      Template.compile userPage.template = .ok t ∧ userPage.Agrees t := by
  let ts : List Token := [.word "UserPage".toList false, .sign '=' false,
    .literal "\"/users/:userId\"".toList (some "/users/:userId".toList)]
  have h : Declaration.ofTokens ts = .ok userPage := by decide +kernel
  obtain ⟨t, hc, ha⟩ := agrees_of_ofTokens h
  exact ⟨ts, t, h, hc, ha⟩

end Declaration

end RouteTemplate.Typed
