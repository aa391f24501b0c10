import RouteTemplate.Proofs.Acceptance
import RouteTemplate.Proofs.UnusableName

/-!
# RouteTemplate.Proofs.UsableNames — the names that a declaration accepts and the faults it reports

The parameters of an accepted declaration go by identifiers that are all different
(`UsableParameters`).  A declaration of good form is refused for its template if this has a fault
anywhere, and otherwise for the first of its names that gives no new identifier (`FirstNameFault`).
Both together are `Declaration.ofTokens_precedence`.
-/

namespace RouteTemplate.Typed

/-! ### One name -/

/-- What is wrong with a name behind names that gave the identifiers `seen`.  What is taken for an
identifier and is none ends the reading abruptly. -/
inductive NameFault (seen : List (List Char)) (name : List Char) : DeclarationError → Prop
  | notIdentifier (h : Naming.isIdentifier (Naming.snakeCase name) = false)
      (hfree : ¬ IsUnusable (Naming.snakeCase name)) :
      NameFault seen name (.notIdentifier name (Naming.snakeCase name))
  | unusable (h : IsUnusable (Naming.snakeCase name)) :
      NameFault seen name (.unusable (Naming.snakeCase name))
  | clash (h : Naming.isIdentifier (Naming.snakeCase name) = true)
      (hseen : Naming.snakeCase name ∈ seen) :
      NameFault seen name (.clash name (Naming.snakeCase name))

/-- A name is refused for what is wrong with it. -/
theorem readParameter_eq_error_iff {seen : List (List Char)} {name : List Char}
    {e : DeclarationError} (hslash : '/' ∉ name) :
    readParameter seen name = .error e ↔ NameFault seen name e := by
  have hsnake := Naming.slash_notMem_snakeCase hslash
  have hident : readIdentifierText (Naming.snakeCase name) = .identifier ↔
      Naming.isIdentifier (Naming.snakeCase name) = true :=
    readIdentifierText_eq_identifier_iff
  have hunusable := readIdentifierText_eq_unusable_iff hsnake
  constructor
  · intro h
    simp only [readParameter] at h
    split at h
    · rename_i hread
      cases h
      rw [hread] at hident hunusable
      exact .notIdentifier (by simpa using hident) (by simpa using hunusable)
    · rename_i hread
      cases h
      exact .unusable (hunusable.mp hread)
    · rename_i hread
      split at h
      · rename_i hseen
        cases h
        exact .clash (hident.mp hread) (List.contains_iff_mem.mp hseen)
      · cases h
  · intro h
    simp only [readParameter]
    cases h with
    | notIdentifier h hfree =>
      split
      · rfl
      · rename_i hread
        exact absurd (hunusable.mp hread) hfree
      · rename_i hread
        rw [hident.mp hread] at h
        cases h
    | unusable h => rw [hunusable.mpr h]
    | clash h hseen =>
      rw [hident.mpr h]
      exact if_pos (List.contains_iff_mem.mpr hseen)

/-! ### The names of a template -/

/-- The parameters of names are accepted when the names give identifiers, each of them once. -/
theorem readParameters_eq_ok_iff {seen names : List (List Char)} {ps : List Parameter} :
    readParameters seen names = .ok ps ↔
      GiveIdentifiers seen names ∧ ps = names.map fun n => ⟨n, Naming.snakeCase n⟩ := by
  induction names generalizing seen ps with
  | nil =>
    rw [readParameters, Except.ok.injEq, List.map_nil]
    have hnil : GiveIdentifiers seen [] := ⟨fun _ h => absurd h List.not_mem_nil, List.nodup_nil⟩
    exact ⟨fun h => ⟨hnil, h.symm⟩, fun h => h.2.symm⟩
  | cons n names ih =>
    rw [giveIdentifiers_cons_iff, readParameters, List.map_cons]
    constructor
    · intro h
      split at h
      · cases h
      · rename_i p hp
        obtain ⟨hident, hseen, rfl⟩ := readParameter_eq_ok_iff.mp hp
        split at h
        · cases h
        · rename_i ps' hps
          cases h
          obtain ⟨hgive, rfl⟩ := ih.mp hps
          exact ⟨⟨hident, hseen, hgive⟩, rfl⟩
    · rintro ⟨⟨hident, hseen, hgive⟩, rfl⟩
      rw [readParameter_eq_ok_iff.mpr ⟨hident, hseen, rfl⟩]
      dsimp only
      rw [ih.mpr ⟨hgive, rfl⟩]

/-- An error is about the first of the names that gives no identifier, or one that an earlier name
gives. -/
def FirstNameFault (names : List (List Char)) (e : DeclarationError) : Prop :=
  ∃ before name after, names = before ++ name :: after ∧ GiveIdentifiers [] before ∧
    NameFault (before.map Naming.snakeCase) name e

/-- Parameters that can be used: the names of a template text in order, each with its snake case,
which is an identifier that no other of them has. -/
structure UsableParameters (text : List Char) (ps : List Parameter) : Prop where
  names : ps.map Parameter.name = namesOfPieces (pieces text)
  ident : ∀ p ∈ ps, p.ident = Naming.snakeCase p.name
  isIdentifier : ∀ p ∈ ps, Naming.isIdentifier p.ident = true
  nodup : (ps.map Parameter.ident).Nodup

theorem templateNames_eq_ok_iff {text : List Char} {names : List (List Char)} :
    templateNames text = .ok names ↔
      Acceptable (pieces text) ∧ names = namesOfPieces (pieces text) := by
  rw [(templateNames_agrees_compile text).1, ← Template.exists_compile_iff]
  constructor
  · rintro ⟨t, ht, rfl⟩
    exact ⟨⟨t, ht⟩, Template.names_of_compile ht⟩
  · rintro ⟨⟨t, ht⟩, rfl⟩
    exact ⟨t, ht, Template.names_of_compile ht⟩

/-- Where there is any fault, there is a leftmost one. -/
theorem exists_leftmostFault {ps : List (List Char)} (h : ¬ Faultless ps) :
    ∃ fault, LeftmostFault ps fault := by
  obtain ⟨hok, herror⟩ := readSegments_spec ps
  cases hread : RouteTemplate.readSegments [] ps with
  | ok ss => exact absurd (hok.mp ⟨ss, hread⟩) h
  | error fault => exact ⟨fault, (herror fault).mp hread⟩

/-- The parameters of a template text without faults are those of its names. -/
theorem parameters_of_acceptable {text : List Char} (h : Acceptable (pieces text)) :
    Typed.parameters text = readParameters [] (namesOfPieces (pieces text)) := by
  rw [Typed.parameters, templateNames_eq_ok_iff.mpr ⟨h, rfl⟩]

/-- A template text with a fault has no parameters, whatever its names are like. -/
theorem parameters_of_leftmostFault {text : List Char} {fault : Fault}
    (h : LeftmostFault (pieces text) fault) :
    Typed.parameters text = .error (.template (fault.message text)) := by
  have hcompile := (Template.compile_eq_error_iff (e := ⟨text, fault⟩)).mpr
    ⟨rfl, ((readSegments_spec (pieces text)).2 fault).mpr h⟩
  rw [Typed.parameters, ((templateNames_agrees_compile text).2 _).mpr ⟨_, hcompile, rfl⟩]
  rfl

theorem usableParameters_of_parameters {text : List Char} {ps : List Parameter}
    (h : Typed.parameters text = .ok ps) : UsableParameters text ps := by
  rw [Typed.parameters] at h
  split at h
  · cases h
  · rename_i names hnames
    obtain ⟨-, rfl⟩ := templateNames_eq_ok_iff.mp hnames
    obtain ⟨⟨hident, hnodup⟩, rfl⟩ := readParameters_eq_ok_iff.mp h
    refine ⟨?_, ?_, ?_, ?_⟩
    · rw [List.map_map]
      exact List.map_id _
    · exact List.forall_mem_map.mpr fun n _ => rfl
    · exact List.forall_mem_map.mpr fun n hn => (hident n hn).1
    · rw [List.map_map]
      exact hnodup

/-- A template text without faults is refused for the first fault of its names. -/
theorem parameters_eq_error_iff {text : List Char} (h : Acceptable (pieces text))
    {e : DeclarationError} :
    Typed.parameters text = .error e ↔ FirstNameFault (namesOfPieces (pieces text)) e := by
  have hslash := slash_notMem_of_templateNames (templateNames_eq_ok_iff.mpr ⟨h, rfl⟩)
  rw [parameters_of_acceptable h, readParameters_eq_error_iff, FirstNameFault]
  simp only [List.nil_append]
  refine exists_congr fun before => exists_congr fun name => exists_congr fun after => ?_
  refine and_congr_right fun hnames => and_congr_right fun _ => readParameter_eq_error_iff ?_
  exact hslash name (hnames ▸ List.mem_append_right _ List.mem_cons_self)

/-! ### Declarations -/

/-- A declaration of good form is refused for its parameters only. -/
theorem Form.ofTokens_eq_error_iff {ts : List Token} {f : Form} (hf : Form.ofTokens ts = .ok f)
    (hleft : f.remainder.leftover? = none) {e : DeclarationError} :
    Declaration.ofTokens ts = .error e ↔ Typed.parameters f.template = .error e := by
  rw [Declaration.ofTokens_eq, hf]
  change (Typed.parameters f.template >>= f.close) = .error e ↔ _
  rw [bind_eq_error_iff]
  refine or_iff_left ?_
  rintro ⟨ps, -, hclose⟩
  rw [Form.close, hleft] at hclose
  cases hclose

/-- **What a declaration accepts and what it reports.**  The parameters of an accepted declaration
have the names of the template in order, and as identifiers these names in snake case, no two of
them alike; this holds also where tokens are left over behind the template.  A declaration of good
form with a fault anywhere in its template is refused for the leftmost one; without any it is
refused for the first of its names that gives no identifier, or one that an earlier name gives. -/
theorem Declaration.ofTokens_precedence (ts : List Token) :
    (∀ d, Declaration.ofTokens ts = .ok d → UsableParameters d.template d.parameters) ∧
      (∀ f ps, Form.ofTokens ts = .ok f → Typed.parameters f.template = .ok ps →
        UsableParameters f.template ps) ∧
      ∀ f, Form.ofTokens ts = .ok f → f.remainder.leftover? = none →
        (∀ before p after fault, pieces f.template = before ++ p :: after →
          AtFault before p fault → ∃ leftmost, LeftmostFault (pieces f.template) leftmost ∧
            Declaration.ofTokens ts = .error (.template (leftmost.message f.template))) ∧
        (Faultless (pieces f.template) → ∀ e, Declaration.ofTokens ts = .error e ↔
          FirstNameFault (namesOfPieces (pieces f.template)) e) := by
  refine ⟨fun d hd => usableParameters_of_parameters (parameters_of_ofTokens hd),
    fun f ps _ hps => usableParameters_of_parameters hps, fun f hf hleft => ⟨?_, ?_⟩⟩
  · intro before p after fault hpieces hfault
    have hfaulty : ¬ Faultless (pieces f.template) := fun h => h before p after hpieces fault hfault
    obtain ⟨leftmost, hleftmost⟩ := exists_leftmostFault hfaulty
    exact ⟨leftmost, hleftmost,
      (Form.ofTokens_eq_error_iff hf hleft).mpr (parameters_of_leftmostFault hleftmost)⟩
  · intro hpieces e
    rw [Form.ofTokens_eq_error_iff hf hleft,
      parameters_eq_error_iff ((acceptable_iff_faultless _).mpr hpieces)]

/-- The second of two names that give the same identifier is reported, and not the one behind it
that gives none; a fault at the end of a template comes before a keyword at its front. -/
theorem Declaration.ofTokens_precedence_route :
    Declaration.ofTokens [.word "Route".toList false, .sign '=' false,
        .literal [] (some "/:postId/:post_id/:1st".toList)] =
      .error (.clash "post_id".toList "post_id".toList) ∧
    FirstNameFault (namesOfPieces (pieces "/:postId/:post_id/:1st".toList))
      (.clash "post_id".toList "post_id".toList) ∧
    ∃ leftmost, LeftmostFault (pieces "/:type/:".toList) leftmost ∧
      Declaration.ofTokens [.word "Route".toList false, .sign '=' false,
          .literal [] (some "/:type/:".toList)] =
        .error (.template (leftmost.message "/:type/:".toList)) := by
  have hclash : Declaration.ofTokens [.word "Route".toList false, .sign '=' false,
        .literal [] (some "/:postId/:post_id/:1st".toList)] =
      .error (.clash "post_id".toList "post_id".toList) := by decide +kernel
  obtain ⟨-, -, hnames⟩ := Declaration.ofTokens_precedence [.word "Route".toList false,
    .sign '=' false, .literal [] (some "/:postId/:post_id/:1st".toList)]
  obtain ⟨-, hfirst⟩ := hnames ⟨[], .inherited, "Route".toList, "/:postId/:post_id/:1st".toList,
    ⟨[], none⟩⟩ rfl rfl
  obtain ⟨-, -, htemplate⟩ := Declaration.ofTokens_precedence [.word "Route".toList false,
    .sign '=' false, .literal [] (some "/:type/:".toList)]
  obtain ⟨hfault, -⟩ := htemplate ⟨[], .inherited, "Route".toList, "/:type/:".toList,
    ⟨[], none⟩⟩ rfl rfl
  have hfaultless : Faultless (pieces "/:postId/:post_id/:1st".toList) :=
    (acceptable_iff_faultless _).mp ⟨by decide, by decide⟩
  exact ⟨hclash, (hfirst hfaultless _).mp hclash,
    hfault [[], ":type".toList] ":".toList [] .emptyName (by decide) .emptyName⟩

end RouteTemplate.Typed
