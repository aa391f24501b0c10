import RouteTemplate.Proofs.OrderlyReaders
import RouteTemplate.Proofs.Scanning
import RouteTemplate.Proofs.SingleWord
import RouteTemplate.Proofs.SnakeCase

/-!
# RouteTemplate.Proofs.UnusableName — declarations that end abruptly

A declaration is read in orderly ways only, but for one step: a name that reads as one word in snake
case passes for an identifier, and is used as it stands.  So a declaration ends abruptly exactly
when its form can be read, its template has names, and the first of them that is no new identifier
is a free word with blanks or other things around it (`Declaration.ofTokens_abrupt_iff`).
-/

namespace RouteTemplate.Typed

/-! ### The parameters of names -/

/-- Names that give identifiers, each of them once and none of `seen`. -/
def GiveIdentifiers (seen names : List (List Char)) : Prop :=
  (∀ n ∈ names, Naming.isIdentifier (Naming.snakeCase n) = true ∧ Naming.snakeCase n ∉ seen) ∧
    (names.map Naming.snakeCase).Nodup

theorem readParameter_eq_ok_iff {seen : List (List Char)} {name : List Char} {p : Parameter} :
    readParameter seen name = .ok p ↔
      Naming.isIdentifier (Naming.snakeCase name) = true ∧ Naming.snakeCase name ∉ seen ∧
        p = ⟨name, Naming.snakeCase name⟩ := by
  rw [← readIdentifierText_eq_identifier_iff]
  simp only [readParameter]
  split
  · rename_i h
    simp [h]
  · rename_i h
    simp [h]
  · rename_i h
    split
    · rename_i hseen
      simp [List.contains_iff_mem.mp hseen]
    · rename_i hseen
      rw [List.contains_iff_mem] at hseen
      simp [h, hseen, eq_comm]

theorem readParameter_eq_unusable_iff {seen : List (List Char)} {name text : List Char}
    (h : '/' ∉ name) :
    readParameter seen name = .error (.unusable text) ↔
      text = Naming.snakeCase name ∧ IsUnusable (Naming.snakeCase name) := by
  rw [← readIdentifierText_eq_unusable_iff (Naming.slash_notMem_snakeCase h)]
  simp only [readParameter]
  split
  · rename_i h
    simp [h]
  · rename_i h
    simp [h, eq_comm]
  · rename_i h
    split <;> simp [h]

theorem giveIdentifiers_cons_iff {seen ns : List (List Char)} {n : List Char} :
    GiveIdentifiers seen (n :: ns) ↔
      Naming.isIdentifier (Naming.snakeCase n) = true ∧ Naming.snakeCase n ∉ seen ∧
        GiveIdentifiers (seen ++ [Naming.snakeCase n]) ns := by
  constructor
  · rintro ⟨hall, hnodup⟩
    obtain ⟨⟨hident, hseen⟩, hall⟩ := List.forall_mem_cons.mp hall
    obtain ⟨hnew, hnodup⟩ := List.nodup_cons.mp hnodup
    refine ⟨hident, hseen, fun m hm => ⟨(hall m hm).1, fun hmem => ?_⟩, hnodup⟩
    rcases List.mem_append.mp hmem with hmem | hmem
    · exact (hall m hm).2 hmem
    · rw [List.mem_singleton] at hmem
      exact hnew (hmem ▸ List.mem_map_of_mem hm)
  · rintro ⟨hident, hseen, hall, hnodup⟩
    refine ⟨List.forall_mem_cons.mpr ⟨⟨hident, hseen⟩, fun m hm => ⟨(hall m hm).1, fun hmem => ?_⟩⟩,
      List.nodup_cons.mpr ⟨fun hmem => ?_, hnodup⟩⟩
    · exact (hall m hm).2 (List.mem_append_left _ hmem)
    · obtain ⟨m, hm, hsame⟩ := List.mem_map.mp hmem
      exact (hall m hm).2 (hsame ▸ List.mem_append_right _ (List.mem_singleton_self _))

theorem readParameters_cons_eq_error_iff {seen ns : List (List Char)} {n : List Char}
    {e : DeclarationError} :
    readParameters seen (n :: ns) = .error e ↔
      readParameter seen n = .error e ∨
        Naming.isIdentifier (Naming.snakeCase n) = true ∧ Naming.snakeCase n ∉ seen ∧
          readParameters (seen ++ [Naming.snakeCase n]) ns = .error e := by
  rw [readParameters]
  cases hn : readParameter seen n with
  | error e' =>
    have hrefused : ¬ (Naming.isIdentifier (Naming.snakeCase n) = true ∧
        Naming.snakeCase n ∉ seen ∧
          readParameters (seen ++ [Naming.snakeCase n]) ns = .error e) := by
      rintro ⟨hident, hseen, -⟩
      rw [readParameter_eq_ok_iff.mpr ⟨hident, hseen, rfl⟩] at hn
      cases hn
    rw [or_iff_left hrefused, Except.error.injEq, Except.error.injEq]
  | ok p =>
    obtain ⟨hident, hseen, rfl⟩ := readParameter_eq_ok_iff.mp hn
    cases hns : readParameters (seen ++ [Naming.snakeCase n]) ns with
    | error e' => simp [hns, hident, hseen]
    | ok ps => simp [hns]

/-- Names are refused at the first that is refused, those before it giving identifiers. -/
theorem readParameters_eq_error_iff {seen names : List (List Char)} {e : DeclarationError} :
    readParameters seen names = .error e ↔
      ∃ before name after, names = before ++ name :: after ∧ GiveIdentifiers seen before ∧
        readParameter (seen ++ before.map Naming.snakeCase) name = .error e := by
  induction names generalizing seen with
  | nil =>
    constructor
    · intro h
      cases h
    · rintro ⟨before, name, after, hnames, -⟩
      exact absurd hnames (List.append_ne_nil_of_right_ne_nil before (List.cons_ne_nil _ _)).symm
  | cons n names ih =>
    rw [readParameters_cons_eq_error_iff]
    constructor
    · rintro (h | ⟨hident, hseen, h⟩)
      · refine ⟨[], n, names, rfl, ⟨fun m hm => absurd hm List.not_mem_nil, List.nodup_nil⟩, ?_⟩
        rwa [List.map_nil, List.append_nil]
      · obtain ⟨before, name, after, rfl, hbefore, hread⟩ := ih.mp h
        refine ⟨n :: before, name, after, rfl,
          giveIdentifiers_cons_iff.mpr ⟨hident, hseen, hbefore⟩, ?_⟩
        rwa [List.append_assoc] at hread
    · rintro ⟨before, name, after, hnames, hbefore, hread⟩
      cases before with
      | nil =>
        cases hnames
        rw [List.map_nil, List.append_nil] at hread
        exact .inl hread
      | cons m before =>
        cases hnames
        obtain ⟨hident, hseen, hbefore⟩ := giveIdentifiers_cons_iff.mp hbefore
        refine .inr ⟨hident, hseen, ih.mpr ⟨before, name, after, rfl, hbefore, ?_⟩⟩
        rwa [List.append_assoc]

/-! ### The form of a declaration -/

/-- A declaration without its parameters, and what remains behind it. -/
structure Form where
  attributes : List Attribute
  visibility : Visibility
  name : List Char
  template : List Char
  remainder : Remainder

/-- Reads all of a declaration but its parameters. -/
def Form.ofTokens (ts : List Token) : Except DeclarationError Form := do
  let (attributes, r) ← readAttributes ts
  let (visibility, r) ← readVisibility r
  let (name, ts) ← readIdentifier r.tokens
  let ts ← readMark "=" ts
  let (template, ts) ← readTemplate ts
  let ts ← readEnd ts
  .ok ⟨attributes, visibility, name, template, r.behind ts⟩

/-- A form with the parameters of its template, unless tokens are left over. -/
def Form.close (f : Form) (ps : List Parameter) : Except DeclarationError Declaration :=
  match f.remainder.leftover? with
  | some e => .error e
  | none => .ok ⟨f.attributes, f.visibility, f.name, f.template, ps⟩

theorem Declaration.ofTokens_eq (ts : List Token) :
    Declaration.ofTokens ts =
      (Form.ofTokens ts >>= fun f => Typed.parameters f.template >>= f.close) := by
  simp only [Declaration.ofTokens, Form.ofTokens, bind_assoc]
  rfl

theorem orderly_formOfTokens (ts : List Token) : Orderly (Form.ofTokens ts) := by
  simp [Form.ofTokens]

theorem orderly_close (f : Form) (ps : List Parameter) : Orderly (f.close ps) :=
  orderly_leftover? f.remainder _

/-! ### Abrupt ends -/

theorem slash_notMem_of_templateNames {text : List Char} {names : List (List Char)}
    (h : templateNames text = .ok names) : ∀ n ∈ names, '/' ∉ n := by
  obtain ⟨t, -, rfl⟩ := ((templateNames_agrees_compile text).1 names).mp h
  intro n hn
  obtain ⟨s, hs, hname⟩ := List.mem_filterMap.mp hn
  cases s with
  | literal text => cases hname
  | param name =>
    cases hname
    exact (t.wellFormed _ hs).1

theorem eq_unusable_of_isAbrupt {e : DeclarationError} (h : e.isAbrupt = true) :
    ∃ text, e = .unusable text := by
  cases e with
  | unusable text => exact ⟨text, rfl⟩
  | _ => cases h

/-- The parameters of a template end the reading abruptly at the first name that gives no new
identifier, where this is unusable. -/
theorem parameters_eq_unusable_iff {template text : List Char} :
    Typed.parameters template = .error (.unusable text) ↔
      ∃ before name after, templateNames template = .ok (before ++ name :: after) ∧
        GiveIdentifiers [] before ∧ IsUnusable (Naming.snakeCase name) ∧
        text = Naming.snakeCase name := by
  rw [Typed.parameters]
  cases hnames : templateNames template with
  | error message => simp
  | ok names =>
    have hslash := slash_notMem_of_templateNames hnames
    rw [readParameters_eq_error_iff]
    constructor
    · rintro ⟨before, name, after, rfl, hbefore, hread⟩
      have hname := hslash name (List.mem_append_right _ List.mem_cons_self)
      obtain ⟨htext, hunusable⟩ := (readParameter_eq_unusable_iff hname).mp hread
      exact ⟨before, name, after, rfl, hbefore, hunusable, htext⟩
    · rintro ⟨before, name, after, heq, hbefore, hunusable, htext⟩
      cases heq
      have hname := hslash name (List.mem_append_right _ List.mem_cons_self)
      exact ⟨before, name, after, rfl, hbefore,
        (readParameter_eq_unusable_iff hname).mpr ⟨htext, hunusable⟩⟩

/-- **When a declaration ends abruptly.**  Reading tokens as a declaration gives the declaration or
refuses them in an orderly way, with one exception: the form can be read, the template has names,
and the first of them that gives no new identifier is, in snake case, a free word with something
around it.  Only then the reading ends abruptly, and it says so of this text. -/
theorem Declaration.ofTokens_abrupt_iff (ts : List Token) (e : DeclarationError) :
    (Declaration.ofTokens ts = .error e ∧ e.isAbrupt = true) ↔
      ∃ f before name after, Form.ofTokens ts = .ok f ∧
        templateNames f.template = .ok (before ++ name :: after) ∧
        GiveIdentifiers [] before ∧ IsUnusable (Naming.snakeCase name) ∧
        e = .unusable (Naming.snakeCase name) := by
  rw [Declaration.ofTokens_eq]
  constructor
  · rintro ⟨h, habrupt⟩
    obtain ⟨text, rfl⟩ := eq_unusable_of_isAbrupt habrupt
    rcases bind_eq_error_iff.mp h with h | ⟨f, hf, h⟩
    · cases orderly_formOfTokens ts _ h
    · rcases bind_eq_error_iff.mp h with h | ⟨ps, -, h⟩
      · obtain ⟨before, name, after, hnames, hbefore, hunusable, rfl⟩ :=
          parameters_eq_unusable_iff.mp h
        exact ⟨f, before, name, after, hf, hnames, hbefore, hunusable, rfl⟩
      · cases orderly_close f ps _ h
  · rintro ⟨f, before, name, after, hf, hnames, hbefore, hunusable, rfl⟩
    have hps := parameters_eq_unusable_iff.mpr
      ⟨before, name, after, hnames, hbefore, hunusable, rfl⟩
    exact ⟨bind_eq_error_iff.mpr (.inr ⟨f, hf, bind_eq_error_iff.mpr (.inl hps)⟩), rfl⟩

/-- A name that begins with a tab ends a declaration abruptly, and so does a raw name. -/
theorem Declaration.abrupt_tab_raw :
    Declaration.ofNameAndTemplate "Route".toList "/:\tid".toList =
        .error (.unusable "\tid".toList) ∧
      Declaration.ofNameAndTemplate "Route".toList "/:r#id".toList =
        .error (.unusable "r#id".toList) ∧
      ∀ text, (DeclarationError.unusable text).isAbrupt = true :=
  ⟨by decide +kernel, by decide +kernel, fun _ => rfl⟩

end RouteTemplate.Typed
