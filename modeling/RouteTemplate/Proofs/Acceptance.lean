import Mathlib.Data.List.Induction
import Mathlib.Data.List.Nodup
import Mathlib.Tactic.Tauto
import RouteTemplate.Template.Basic

/-!
# RouteTemplate.Proofs.Acceptance — which texts are templates

A text is a template when what follows the colons of its pieces are names, none of them there twice
(`Acceptable`), and a text that is no template is refused for the leftmost of its pieces that is at
fault (`LeftmostFault`).  The compiler gets there by looking at one piece after the other
(`readSegments_spec`), whichever way the template is asked for (`compile_accepts`).
-/

namespace RouteTemplate

/-! ### Pieces and their faults -/

/-- What follows the colon of a piece that begins with one. -/
def afterColon? : List Char → Option (List Char)
  | ':' :: rest => some rest
  | _ => none

/-- What follows the colons of pieces, in order. -/
def namesOfPieces (ps : List (List Char)) : List (List Char) := ps.filterMap afterColon?

/-- Pieces that make a template: what follows a colon is not empty, does not begin with another
colon, and does not follow a colon twice. -/
def Acceptable (ps : List (List Char)) : Prop :=
  (∀ n ∈ namesOfPieces ps, n ≠ [] ∧ n.head? ≠ some ':') ∧ (namesOfPieces ps).Nodup

/-- What a piece behind other pieces does wrong. -/
inductive AtFault (earlier : List (List Char)) : List Char → Fault → Prop where
  | emptyName : AtFault earlier [':'] .emptyName
  | malformedName (n : List Char) :
      AtFault earlier (':' :: ':' :: n) (.malformedName (':' :: n))
  | duplicateName {n : List Char} :
      n ≠ [] → n.head? ≠ some ':' → ':' :: n ∈ earlier →
        AtFault earlier (':' :: n) (.duplicateName n)

/-- No piece does anything wrong. -/
def Faultless (ps : List (List Char)) : Prop :=
  ∀ before p after, ps = before ++ p :: after → ∀ f, ¬ AtFault before p f

/-- A fault is that of the leftmost piece that has one. -/
def LeftmostFault (ps : List (List Char)) (f : Fault) : Prop :=
  ∃ before p after, ps = before ++ p :: after ∧ AtFault before p f ∧ Faultless before

theorem namesOfPieces_append (ps qs : List (List Char)) :
    namesOfPieces (ps ++ qs) = namesOfPieces ps ++ namesOfPieces qs := List.filterMap_append

theorem namesOfPieces_singleton (p : List Char) : namesOfPieces [p] = (afterColon? p).toList := by
  rw [namesOfPieces, List.filterMap_cons, List.filterMap_nil]
  cases afterColon? p <;> rfl

theorem afterColon?_eq_some_iff {p n : List Char} : afterColon? p = some n ↔ p = ':' :: n := by
  unfold afterColon?
  split
  · simp
  · rename_i h
    exact iff_of_false (by simp) (h n)

theorem mem_namesOfPieces_iff {n : List Char} {ps : List (List Char)} :
    n ∈ namesOfPieces ps ↔ ':' :: n ∈ ps := by
  simp only [namesOfPieces, List.mem_filterMap, afterColon?_eq_some_iff, exists_eq_right]

theorem forall_not_atFault_colon_iff {earlier : List (List Char)} {n : List Char} :
    (∀ f, ¬ AtFault earlier (':' :: n) f) ↔
      (n ≠ [] ∧ n.head? ≠ some ':') ∧ ':' :: n ∉ earlier := by
  constructor
  · intro h
    have hne : n ≠ [] := by
      rintro rfl
      exact h _ .emptyName
    have hhead : n.head? ≠ some ':' := by
      intro hn
      obtain ⟨m, rfl⟩ := List.head?_eq_some_iff.mp hn
      exact h _ (.malformedName m)
    exact ⟨⟨hne, hhead⟩, fun hmem => h _ (.duplicateName hne hhead hmem)⟩
  · rintro ⟨⟨hne, hhead⟩, hmem⟩ f hf
    cases hf with
    | emptyName => exact hne rfl
    | malformedName m => exact hhead rfl
    | duplicateName _ _ h => exact hmem h

/-! ### One piece more -/

/-- A piece of a list is the last one or stands before the last one. -/
theorem concat_eq_append_cons_iff {α : Type} {xs before after : List α} {x y : α} :
    xs ++ [x] = before ++ y :: after ↔
      (after = [] ∧ xs = before ∧ x = y) ∨ ∃ after', after = after' ++ [x] ∧
        xs = before ++ y :: after' := by
  constructor
  · intro h
    rcases List.eq_nil_or_concat after with rfl | ⟨after', z, rfl⟩
    · obtain ⟨hxs, hx⟩ := List.append_inj' h rfl
      exact Or.inl ⟨rfl, hxs, List.singleton_inj.mp hx⟩
    · rw [List.concat_eq_append, ← List.cons_append, ← List.append_assoc] at h
      obtain ⟨hxs, hx⟩ := List.append_inj' h rfl
      exact Or.inr ⟨after', by rw [List.singleton_inj.mp hx, List.concat_eq_append], hxs⟩
  · rintro (⟨rfl, rfl, rfl⟩ | ⟨after', rfl, rfl⟩)
    · rfl
    · rw [List.append_assoc, List.cons_append]

theorem faultless_nil : Faultless [] := by
  intro before p after h
  simp at h

theorem faultless_concat_iff {ps : List (List Char)} {p : List Char} :
    Faultless (ps ++ [p]) ↔ Faultless ps ∧ ∀ f, ¬ AtFault ps p f := by
  constructor
  · intro h
    refine ⟨fun before q after hps => ?_, h ps p [] rfl⟩
    exact h before q (after ++ [p]) (concat_eq_append_cons_iff.mpr (Or.inr ⟨after, rfl, hps⟩))
  · rintro ⟨h, hp⟩ before q after heq
    rcases concat_eq_append_cons_iff.mp heq with ⟨-, rfl, rfl⟩ | ⟨after', -, hps⟩
    · exact hp
    · exact h before q after' hps

theorem not_leftmostFault_nil (f : Fault) : ¬ LeftmostFault [] f := by
  rintro ⟨before, p, after, h, -⟩
  simp at h

theorem leftmostFault_concat_iff {ps : List (List Char)} {p : List Char} {f : Fault} :
    LeftmostFault (ps ++ [p]) f ↔ LeftmostFault ps f ∨ (Faultless ps ∧ AtFault ps p f) := by
  constructor
  · rintro ⟨before, q, after, heq, hq, hbefore⟩
    rcases concat_eq_append_cons_iff.mp heq with ⟨-, rfl, rfl⟩ | ⟨after', -, hps⟩
    · exact Or.inr ⟨hbefore, hq⟩
    · exact Or.inl ⟨before, q, after', hps, hq, hbefore⟩
  · rintro (⟨before, q, after, hps, hq, hbefore⟩ | ⟨hps, hp⟩)
    · refine ⟨before, q, after ++ [p], ?_, hq, hbefore⟩
      exact concat_eq_append_cons_iff.mpr (Or.inr ⟨after, rfl, hps⟩)
    · exact ⟨ps, p, [], rfl, hp, hps⟩

theorem acceptable_concat_iff {ps : List (List Char)} {p : List Char} :
    Acceptable (ps ++ [p]) ↔ Acceptable ps ∧ ∀ f, ¬ AtFault ps p f := by
  unfold Acceptable
  rw [namesOfPieces_append, namesOfPieces_singleton]
  cases hp : afterColon? p with
  | none =>
    -- a piece without a colon adds no name and does nothing wrong
    have hfault : ∀ f, ¬ AtFault ps p f := by
      rintro f (_ | _ | _) <;> cases hp
    simp [hfault]
  | some n =>
    obtain rfl : p = ':' :: n := afterColon?_eq_some_iff.mp hp
    rw [Option.toList_some, List.forall_mem_append, List.forall_mem_singleton,
      List.nodup_append_comm, List.singleton_append, List.nodup_cons, mem_namesOfPieces_iff,
      forall_not_atFault_colon_iff]
    tauto

/-- Pieces are acceptable when none of them does anything wrong. -/
theorem acceptable_iff_faultless (ps : List (List Char)) : Acceptable ps ↔ Faultless ps := by
  induction ps using List.reverseRecOn with
  | nil => exact iff_of_true ⟨nofun, List.nodup_nil⟩ faultless_nil
  | append_singleton ps p ih => rw [acceptable_concat_iff, faultless_concat_iff, ih]

/-! ### Reading pieces -/

/-- A piece is refused for what it does wrong. -/
theorem read_eq_error_iff {earlier : List (List Char)} {p : List Char} {f : Fault} :
    Segment.read (namesOfPieces earlier) p = .error f ↔ AtFault earlier p f := by
  constructor
  · intro h
    unfold Segment.read at h
    split at h
    · rename_i n
      split at h
      · rename_i hn
        subst hn
        cases h
        exact .emptyName
      rename_i hne
      split at h
      · rename_i hhead
        obtain ⟨m, rfl⟩ := List.head?_eq_some_iff.mp hhead
        cases h
        exact .malformedName m
      rename_i hhead
      split at h
      · rename_i hseen
        cases h
        rw [List.contains_iff_mem, mem_namesOfPieces_iff] at hseen
        exact .duplicateName hne hhead hseen
      · cases h
    · cases h
  · intro h
    cases h with
    | emptyName => rfl
    | malformedName n => rfl
    | duplicateName hne hhead hmem =>
      have hseen := List.contains_iff_mem.mpr (mem_namesOfPieces_iff.mpr hmem)
      rw [Segment.read, if_neg hne, if_neg hhead, if_pos hseen]

theorem name?_of_read {seen : List (List Char)} {p : List Char} {s : Segment}
    (h : Segment.read seen p = .ok s) : s.name? = afterColon? p := by
  unfold Segment.read at h
  split at h
  · repeat (split at h; · cases h)
    cases h
    rfl
  · rename_i hp
    cases h
    unfold afterColon?
    split
    · exact absurd rfl (hp _)
    · rfl

/-- The names of segments are what follows the colons of the pieces they were read from. -/
theorem paramNames_of_readSegments {seen ps : List (List Char)} {ss : List Segment}
    (h : readSegments seen ps = .ok ss) : paramNames ss = namesOfPieces ps := by
  induction ps generalizing seen ss with
  | nil =>
    cases h
    rfl
  | cons p ps ih =>
    unfold readSegments at h
    split at h
    · cases h
    rename_i s hs
    split at h
    · cases h
    rename_i ss' hss
    cases h
    have hp : namesOfPieces (p :: ps) = (afterColon? p).toList ++ namesOfPieces ps := by
      rw [← List.singleton_append, namesOfPieces_append, namesOfPieces_singleton]
    rw [paramNames_cons, hp, ih hss, name?_of_read hs]

/-- One piece more is read behind the names that were read before. -/
theorem readSegments_concat (seen ps : List (List Char)) (p : List Char) :
    readSegments seen (ps ++ [p]) = (readSegments seen ps).bind fun ss =>
      (Segment.read (seen ++ paramNames ss) p).map fun s => ss ++ [s] := by
  induction ps generalizing seen with
  | nil =>
    show readSegments seen [p] = (Segment.read (seen ++ []) p).map _
    rw [List.append_nil]
    cases hp : Segment.read seen p with
    | error f => rw [readSegments_of_read_eq_error hp]; rfl
    | ok s => rw [readSegments_of_read_eq_ok hp]; rfl
  | cons q ps ih =>
    cases hq : Segment.read seen q with
    | error f =>
      rw [List.cons_append, readSegments_of_read_eq_error hq, readSegments_of_read_eq_error hq]
      rfl
    | ok s =>
      rw [List.cons_append, readSegments_of_read_eq_ok hq, readSegments_of_read_eq_ok hq, ih]
      cases readSegments (seen ++ s.name?.toList) ps with
      | error f => rfl
      | ok ss =>
        show ((Segment.read (seen ++ s.name?.toList ++ paramNames ss) p).map _).map _ =
          (Segment.read (seen ++ paramNames (s :: ss)) p).map _
        rw [paramNames_cons, List.append_assoc]
        cases Segment.read (seen ++ (s.name?.toList ++ paramNames ss)) p <;> rfl

/-- Pieces are read when none of them does anything wrong, and otherwise refused for what the
leftmost one at fault does wrong. -/
theorem readSegments_spec (ps : List (List Char)) :
    ((∃ ss, readSegments [] ps = .ok ss) ↔ Faultless ps) ∧
      ∀ f, readSegments [] ps = .error f ↔ LeftmostFault ps f := by
  induction ps using List.reverseRecOn with
  | nil =>
    refine ⟨iff_of_true ⟨[], rfl⟩ faultless_nil, fun f => ?_⟩
    exact iff_of_false nofun (not_leftmostFault_nil f)
  | append_singleton ps p ih =>
    simp only [faultless_concat_iff, leftmostFault_concat_iff, ← ih.1, ← ih.2,
      ← read_eq_error_iff]
    cases hps : readSegments [] ps with
    | error g =>
      have hread : readSegments [] (ps ++ [p]) = .error g := by
        rw [readSegments_concat, hps]
        rfl
      simp [hread]
    | ok ss =>
      have hread : readSegments [] (ps ++ [p]) =
          (Segment.read (namesOfPieces ps) p).map fun s => ss ++ [s] := by
        rw [readSegments_concat, hps, ← paramNames_of_readSegments hps]
        rfl
      rw [hread]
      cases Segment.read (namesOfPieces ps) p <;> simp [Except.map]

/-! ### Texts -/

namespace Template

theorem exists_compile_iff (text : List Char) :
    (∃ t, compile text = .ok t) ↔ Acceptable (pieces text) := by
  rw [acceptable_iff_faultless, ← (readSegments_spec (pieces text)).1]
  constructor
  · rintro ⟨t, ht⟩
    exact ⟨t.segments, compile_eq_ok_iff.mp ht⟩
  · rintro ⟨ss, hss⟩
    cases hc : compile text with
    | ok t => exact ⟨t, rfl⟩
    | error e =>
      obtain ⟨-, hf⟩ := compile_eq_error_iff.mp hc
      rw [hss] at hf
      cases hf

/-- The names of a template are what follows the colons of its text. -/
theorem names_of_compile {text : List Char} {t : Template} (h : compile text = .ok t) :
    t.names = namesOfPieces (pieces text) :=
  paramNames_of_readSegments (compile_eq_ok_iff.mp h)

/-- **Exactly the well-formed texts are templates.**  A text is a template when what follows the
colons of its pieces is not empty, does not begin with a colon and is never the same; then these are
the names of its parameters in order, and it is still written the same way.  Any other text is
refused for the leftmost of its pieces that is a lone colon, or has two colons in front, or repeats
an earlier one that has a colon, and for nothing else.  All constructors make the same template, and
all report the same fault, except the one that ends the program with its message. -/
theorem compile_accepts (text : List Char) :
    ((∃ t, compile text = .ok t) ↔ Acceptable (pieces text)) ∧
      (∀ t, compile text = .ok t →
        t.names = namesOfPieces (pieces text) ∧
          t.paramCount = (namesOfPieces (pieces text)).length ∧
          (t.isStatic = true ↔ namesOfPieces (pieces text) = []) ∧
          joinPieces t.rawSegments = text ∧ t.text = text) ∧
      (∀ e, compile text = .error e ↔
        e.template = text ∧ LeftmostFault (pieces text) e.fault) ∧
      ∀ c : Constructor,
        (∀ t, c.construct text = .ok t ↔ compile text = .ok t) ∧
          ∀ e, compile text = .error e →
            c.construct text = .error (if c = .new then .abrupt e.message else .reported e) := by
  refine ⟨exists_compile_iff text, fun t ht => ?_, fun e => ?_, fun c => ?_⟩
  · have hnames := names_of_compile ht
    have htext := text_of_compile ht
    refine ⟨hnames, by rw [paramCount, hnames], ?_, ?_, htext⟩
    · rw [isStatic, List.isEmpty_iff, hnames]
    · rw [rawSegments, htext, joinPieces_pieces]
  · rw [compile_eq_error_iff, (readSegments_spec (pieces text)).2]
  · cases hc : compile text with
    | ok t => cases c <;> simp [Constructor.construct, compileOrReport, hc]
    | error e => cases c <;> simp [Constructor.construct, compileOrReport, hc]

/-- A text with one parameter is a template, and of two faults the left one counts. -/
theorem compile_accepts_users :
    (∃ t, compile "/users/:id".toList = .ok t ∧ t.names = ["id".toList]) ∧
      compile "/:a/:a/:".toList = .error ⟨"/:a/:a/:".toList, .duplicateName "a".toList⟩ ∧
      Constructor.parse.construct "/:a/:a/:".toList =
        .error (.reported ⟨"/:a/:a/:".toList, .duplicateName "a".toList⟩) := by
  obtain ⟨hok, hnames, -, -⟩ := compile_accepts "/users/:id".toList
  obtain ⟨-, -, herror, hconstruct⟩ := compile_accepts "/:a/:a/:".toList
  have hrefused : compile "/:a/:a/:".toList =
      .error ⟨"/:a/:a/:".toList, .duplicateName "a".toList⟩ := by
    refine (herror _).mpr ⟨rfl, [[], ":a".toList], ":a".toList, [":".toList], by decide, ?_, ?_⟩
    · exact .duplicateName (by decide) (by decide) (by decide)
    · exact (acceptable_iff_faultless _).mp ⟨by decide, by decide⟩
  refine ⟨?_, hrefused, (hconstruct .parse).2 _ hrefused⟩
  obtain ⟨t, ht⟩ := hok.mpr ⟨by decide, by decide⟩
  exact ⟨t, ht, (hnames t ht).1.trans (by decide)⟩

end Template

end RouteTemplate
