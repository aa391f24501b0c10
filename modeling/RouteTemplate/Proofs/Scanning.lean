import RouteTemplate.Proofs.Outcome
import RouteTemplate.Template.Basic
import RouteTemplate.Typed.Declaration

/-!
# RouteTemplate.Proofs.Scanning — the parameters of a declaration

A declaration scans its template for parameter names without reading the segments, and words what is
wrong with it by itself.  The scan and the compiler agree on every text, in the names and in the
message of the first fault (`templateNames_eq`), so the template of a declaration that is accepted
compiles, and its names are those of the declared parameters (`compile_of_ofTokens`).
-/

namespace RouteTemplate

namespace Typed

/-! ### Scanning -/

/-- The scan of pieces finds what the reader of segments finds: the same names, or the text of the
same fault. -/
theorem scanNames_eq (template : List Char) (seen ps : List (List Char)) :
    scanNames template seen ps =
      ((RouteTemplate.readSegments seen ps).map fun ss => seen ++ paramNames ss).mapError
        (Fault.message template) := by
  fun_induction scanNames template seen ps with
  | case1 seen => exact congrArg Except.ok (List.append_nil seen).symm
  | case2 seen name ps h =>
    rw [List.isEmpty_iff] at h
    have hread : Segment.read seen (':' :: name) = .error .emptyName := by
      rw [Segment.read, if_pos h]
    rw [readSegments_of_read_eq_error hread ps]
    rfl
  | case3 seen name ps hne h =>
    rw [List.isEmpty_iff] at hne
    rw [beq_iff_eq] at h
    have hread : Segment.read seen (':' :: name) = .error (.malformedName name) := by
      rw [Segment.read, if_neg hne, if_pos h]
    rw [readSegments_of_read_eq_error hread ps]
    rfl
  | case4 seen name ps hne hc h =>
    rw [List.isEmpty_iff] at hne
    rw [beq_iff_eq] at hc
    have hread : Segment.read seen (':' :: name) = .error (.duplicateName name) := by
      rw [Segment.read, if_neg hne, if_neg hc, if_pos h]
    rw [readSegments_of_read_eq_error hread ps]
    rfl
  | case5 seen name ps hne hc hseen ih =>
    rw [List.isEmpty_iff] at hne
    rw [beq_iff_eq] at hc
    have hread : Segment.read seen (':' :: name) = .ok (.param name) := by
      rw [Segment.read, if_neg hne, if_neg hc, if_neg hseen]
    rw [ih, readSegments_of_read_eq_ok hread ps, Segment.name?_param, Option.toList_some]
    cases RouteTemplate.readSegments (seen ++ [name]) ps with
    | error e => rfl
    | ok ss =>
      exact congrArg Except.ok (List.append_assoc seen [name] (paramNames ss))
  | case6 seen p ps hp ih =>
    have hread : Segment.read seen p = .ok (.literal p) := Segment.read_literal hp
    rw [ih, readSegments_of_read_eq_ok hread ps, Segment.name?_literal, Option.toList_none,
      List.append_nil]
    cases RouteTemplate.readSegments seen ps <;> rfl

/-- A template text is scanned for the names that the compiled template has, or for the text of the
fault that the compiler finds. -/
theorem templateNames_eq (text : List Char) :
    templateNames text =
      ((Template.compile text).map Template.names).mapError CompileError.message := by
  rw [templateNames, scanNames_eq]
  cases hc : Template.compile text with
  | error e =>
    obtain ⟨rfl, hf⟩ := Template.compile_eq_error_iff.mp hc
    rw [hf]
    rfl
  | ok t =>
    rw [Template.compile_eq_ok_iff.mp hc]
    rfl

/-- **Scanning and compiling agree.**  The scan of a text gives names when the text compiles, and
these are the names of its template in order; it gives a message when the text does not compile, and
this is the message of the compile error. -/
theorem templateNames_agrees_compile (text : List Char) :
    (∀ names : List (List Char), templateNames text = .ok names ↔
      ∃ t : Template, Template.compile text = .ok t ∧ t.names = names) ∧
    (∀ message : String, templateNames text = .error message ↔
      ∃ e : CompileError, Template.compile text = .error e ∧ e.message = message) := by
  have hscan := templateNames_eq text
  refine ⟨fun names => ?_, fun message => ?_⟩
  · rw [hscan, mapError_map_eq_ok_iff]
  · rw [hscan, mapError_map_eq_error_iff]

/-! ### Declared parameters -/

theorem readParameter_eq_ok {seen : List (List Char)} {name : List Char} {p : Parameter}
    (h : readParameter seen name = .ok p) : p = ⟨name, Naming.snakeCase name⟩ := by
  simp only [readParameter] at h
  split at h
  · cases h
  · cases h
  · split at h
    · cases h
    · exact (Except.ok.inj h).symm

/-- The declared parameters have the given names, and these in snake case as identifiers. -/
theorem readParameters_eq_ok {seen names : List (List Char)} {ps : List Parameter}
    (h : readParameters seen names = .ok ps) :
    ps = names.map fun n => ⟨n, Naming.snakeCase n⟩ := by
  induction names generalizing seen ps with
  | nil =>
    cases h
    rfl
  | cons n names ih =>
    rw [readParameters] at h
    split at h
    · cases h
    · rename_i p hp
      split at h
      · cases h
      · rename_i ps' hps
        cases h
        rw [readParameter_eq_ok hp, ih hps, List.map_cons]

/-- A declaration has the parameters of its template. -/
theorem parameters_of_ofTokens {ts : List Token} {d : Declaration}
    (h : Declaration.ofTokens ts = .ok d) : parameters d.template = .ok d.parameters := by
  rw [Declaration.ofTokens] at h
  obtain ⟨⟨attributes, r₁⟩, -, h⟩ := bind_eq_ok_iff.mp h
  obtain ⟨⟨visibility, r₂⟩, -, h⟩ := bind_eq_ok_iff.mp h
  obtain ⟨⟨name, ts₃⟩, -, h⟩ := bind_eq_ok_iff.mp h
  obtain ⟨ts₄, -, h⟩ := bind_eq_ok_iff.mp h
  obtain ⟨⟨template, ts₅⟩, -, h⟩ := bind_eq_ok_iff.mp h
  obtain ⟨ts₆, -, h⟩ := bind_eq_ok_iff.mp h
  obtain ⟨ps, hps, h⟩ := bind_eq_ok_iff.mp h
  split at h
  · cases h
  · cases h
    exact hps

/-- **A declaration is in step with its template.**  The template of an accepted declaration
compiles; the parameters of the declaration have its names, and these in snake case as identifiers.
-/
theorem compile_of_ofTokens {ts : List Token} {d : Declaration}
    (h : Declaration.ofTokens ts = .ok d) :
    ∃ t, Template.compile d.template = .ok t ∧
      d.parameters = t.names.map fun n => ⟨n, Naming.snakeCase n⟩ := by
  have hps := parameters_of_ofTokens h
  rw [parameters, templateNames_eq] at hps
  cases hc : Template.compile d.template with
  | error e =>
    rw [hc] at hps
    cases hps
  | ok t =>
    rw [hc] at hps
    exact ⟨t, rfl, readParameters_eq_ok hps⟩

end Typed

end RouteTemplate
