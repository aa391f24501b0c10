import RouteTemplate.Template.Pattern

/-!
# RouteTemplate.Proofs.Pattern — what a pattern matches

`Pattern.Matches` says without any search order which texts a pattern matches and what its captures
may take: a pattern is a concatenation, a character matches itself, and a capture takes one or more
characters other than a slash.  `Pattern.accepts` decides it (`accepts_eq_true_iff`), and
`Pattern.captures` finds what the captures take whenever there is anything to find.
-/

namespace RouteTemplate.Pattern

/-- A pattern matches a text, and its captures take the given parts of it. -/
inductive Matches : Pattern → List Char → List (List Char) → Prop where
  | nil : Matches [] [] []
  | char {p : Pattern} {cs : List Char} {taken : List (List Char)} (c : Char) :
      Matches p cs taken → Matches (.char c :: p) (c :: cs) taken
  | capture {p : Pattern} {part cs : List Char} {taken : List (List Char)} :
      part ≠ [] → '/' ∉ part → Matches p cs taken →
        Matches (.capture :: p) (part ++ cs) (part :: taken)

/-! ### Inversion -/

@[simp] theorem matches_nil_iff {cs : List Char} {taken : List (List Char)} :
    Matches [] cs taken ↔ cs = [] ∧ taken = [] := by
  constructor
  · rintro ⟨⟩
    exact ⟨rfl, rfl⟩
  · rintro ⟨rfl, rfl⟩
    exact .nil

theorem matches_char_iff {p : Pattern} {c : Char} {cs : List Char} {taken : List (List Char)} :
    Matches (.char c :: p) cs taken ↔ ∃ ds, cs = c :: ds ∧ Matches p ds taken := by
  constructor
  · rintro ⟨⟩
    exact ⟨_, rfl, ‹_›⟩
  · rintro ⟨ds, rfl, h⟩
    exact .char c h

theorem matches_capture_iff {p : Pattern} {cs : List Char} {taken : List (List Char)} :
    Matches (.capture :: p) cs taken ↔
      ∃ part ds rest, cs = part ++ ds ∧ taken = part :: rest ∧ part ≠ [] ∧ '/' ∉ part ∧
        Matches p ds rest := by
  constructor
  · rintro ⟨⟩
    exact ⟨_, _, _, rfl, rfl, ‹_›, ‹_›, ‹_›⟩
  · rintro ⟨part, ds, rest, rfl, rfl, hne, hs, h⟩
    exact .capture hne hs h

/-- The first character of a capture is all that it takes, or the capture goes on behind it. -/
theorem matches_capture_cons_iff {p : Pattern} {d : Char} {ds : List Char}
    {taken : List (List Char)} :
    Matches (.capture :: p) (d :: ds) taken ↔ d ≠ '/' ∧
      ((∃ rest, taken = [d] :: rest ∧ Matches p ds rest) ∨
        ∃ part rest, taken = (d :: part) :: rest ∧ Matches (.capture :: p) ds (part :: rest)) := by
  rw [matches_capture_iff]
  constructor
  · rintro ⟨part, cs, rest, hcs, rfl, hne, hs, h⟩
    obtain ⟨d', part, rfl⟩ := List.exists_cons_of_ne_nil hne
    rw [List.cons_append, List.cons.injEq] at hcs
    obtain ⟨rfl, rfl⟩ := hcs
    rw [List.mem_cons, not_or] at hs
    refine ⟨Ne.symm hs.1, ?_⟩
    cases part with
    | nil => exact Or.inl ⟨rest, rfl, h⟩
    | cons e part => exact Or.inr ⟨e :: part, rest, rfl, .capture (by simp) hs.2 h⟩
  · rintro ⟨hd, ⟨rest, rfl, h⟩ | ⟨part, rest, rfl, h⟩⟩
    · exact ⟨[d], ds, rest, rfl, rfl, by simp, by simpa using Ne.symm hd, h⟩
    · obtain ⟨part', cs, rest', rfl, heq, hne, hs, h⟩ := matches_capture_iff.mp h
      rw [List.cons.injEq] at heq
      obtain ⟨rfl, rfl⟩ := heq
      refine ⟨d :: part, cs, rest, rfl, rfl, by simp, ?_, h⟩
      rw [List.mem_cons, not_or]
      exact ⟨Ne.symm hd, hs⟩

/-- Matching a concatenation is matching its parts one after the other. -/
theorem matches_append_iff {p q : Pattern} {cs : List Char} {taken : List (List Char)} :
    Matches (p ++ q) cs taken ↔
      ∃ cs₁ cs₂ t₁ t₂, cs = cs₁ ++ cs₂ ∧ taken = t₁ ++ t₂ ∧ Matches p cs₁ t₁ ∧
        Matches q cs₂ t₂ := by
  induction p generalizing cs taken with
  | nil =>
    constructor
    · intro h
      exact ⟨[], cs, [], taken, rfl, rfl, .nil, h⟩
    · rintro ⟨cs₁, cs₂, t₁, t₂, rfl, rfl, ⟨⟩, h⟩
      exact h
  | cons i p ih =>
    constructor
    · intro h
      cases h with
      | char c h =>
        obtain ⟨cs₁, cs₂, t₁, t₂, rfl, rfl, h₁, h₂⟩ := ih.mp h
        exact ⟨c :: cs₁, cs₂, t₁, t₂, rfl, rfl, .char c h₁, h₂⟩
      | capture hne hs h =>
        obtain ⟨cs₁, cs₂, t₁, t₂, rfl, rfl, h₁, h₂⟩ := ih.mp h
        exact ⟨_ ++ cs₁, cs₂, _ :: t₁, t₂, (List.append_assoc ..).symm, rfl, .capture hne hs h₁, h₂⟩
    · rintro ⟨cs₁, cs₂, t₁, t₂, rfl, rfl, h₁, h₂⟩
      cases h₁ with
      | char c h => exact .char c (ih.mpr ⟨_, _, _, _, rfl, rfl, h, h₂⟩)
      | capture hne hs h =>
        rw [List.append_assoc]
        exact .capture hne hs (ih.mpr ⟨_, _, _, _, rfl, rfl, h, h₂⟩)

theorem matches_map_char_iff {text cs : List Char} {taken : List (List Char)} :
    Matches (text.map .char) cs taken ↔ cs = text ∧ taken = [] := by
  induction text generalizing cs with
  | nil => simp
  | cons c text ih =>
    rw [List.map_cons, matches_char_iff]
    constructor
    · rintro ⟨ds, rfl, h⟩
      obtain ⟨rfl, rfl⟩ := ih.mp h
      exact ⟨rfl, rfl⟩
    · rintro ⟨rfl, rfl⟩
      exact ⟨text, rfl, ih.mpr ⟨rfl, rfl⟩⟩

/-! ### The two matchers -/

theorem not_matches_cons_nil {i : PatternItem} {p : Pattern} {taken : List (List Char)} :
    ¬ Matches (i :: p) [] taken := by
  intro h
  cases i with
  | char c =>
    obtain ⟨ds, hds, -⟩ := matches_char_iff.mp h
    exact List.cons_ne_nil c ds hds.symm
  | capture =>
    obtain ⟨part, ds, rest, hcs, -, hne, -⟩ := matches_capture_iff.mp h
    exact hne (List.append_eq_nil_iff.mp hcs.symm).1

/-- A pattern accepts the texts that it matches. -/
theorem accepts_eq_true_iff {p : Pattern} {cs : List Char} :
    p.accepts cs = true ↔ ∃ taken, Matches p cs taken := by
  fun_induction accepts p cs with
  | case1 => simp
  | case2 c cs => simp
  | case3 i p => simp [not_matches_cons_nil]
  | case4 c p d ds ih =>
    rw [Bool.and_eq_true, beq_iff_eq, ih]
    constructor
    · rintro ⟨rfl, taken, h⟩
      exact ⟨taken, .char c h⟩
    · rintro ⟨taken, h⟩
      obtain ⟨ds', heq, h⟩ := matches_char_iff.mp h
      obtain ⟨rfl, rfl⟩ := List.cons.inj heq
      exact ⟨rfl, taken, h⟩
  | case5 p d ds ih₁ ih₂ =>
    simp only [Bool.and_eq_true, Bool.or_eq_true, bne_iff_ne, ih₁, ih₂, matches_capture_cons_iff]
    constructor
    · rintro ⟨hd, ⟨taken, h⟩ | ⟨taken, h⟩⟩
      · obtain ⟨part, cs, rest, -, rfl, -⟩ := matches_capture_iff.mp h
        exact ⟨_, hd, Or.inr ⟨part, rest, rfl, h⟩⟩
      · exact ⟨_, hd, Or.inl ⟨taken, rfl, h⟩⟩
    · rintro ⟨taken, hd, ⟨rest, -, h⟩ | ⟨part, rest, -, h⟩⟩
      · exact ⟨hd, Or.inr ⟨rest, h⟩⟩
      · exact ⟨hd, Or.inl ⟨_, h⟩⟩

/-- What the search finds is a match. -/
theorem matches_of_captures {p : Pattern} {cs : List Char} {taken : List (List Char)}
    (h : p.captures cs = some taken) : Matches p cs taken := by
  fun_induction captures p cs generalizing taken with
  | case1 => cases h; exact .nil
  | case2 => cases h
  | case3 => cases h
  | case4 p d ds ih => exact .char d (ih h)
  | case5 => cases h
  | case6 => cases h
  | case7 p d ds hd part others hc ih =>
    cases h
    exact matches_capture_cons_iff.mpr ⟨hd, Or.inr ⟨part, others, rfl, ih hc⟩⟩
  | case8 p d ds hd hc ih₁ ih₂ =>
    obtain ⟨rest, hr, rfl⟩ := Option.map_eq_some_iff.mp h
    exact matches_capture_cons_iff.mpr ⟨hd, Or.inl ⟨rest, rfl, ih₂ hr⟩⟩

/-- The search finds something whenever there is a match. -/
theorem captures_ne_none {p : Pattern} {cs : List Char} {taken : List (List Char)}
    (h : Matches p cs taken) : p.captures cs ≠ none := by
  fun_induction captures p cs generalizing taken with
  | case1 => simp
  | case2 => simp at h
  | case3 => exact absurd h not_matches_cons_nil
  | case4 p d ds ih =>
    obtain ⟨ds', heq, h⟩ := matches_char_iff.mp h
    obtain ⟨-, rfl⟩ := List.cons.inj heq
    exact ih h
  | case5 c p d ds hne =>
    obtain ⟨ds', heq, h⟩ := matches_char_iff.mp h
    exact absurd (List.cons.inj heq).1.symm hne
  | case6 p ds => exact absurd rfl (matches_capture_cons_iff.mp h).1
  | case7 => simp
  | case8 p d ds hd hc ih₁ ih₂ =>
    rw [Ne, Option.map_eq_none_iff]
    obtain ⟨-, ⟨rest, -, h⟩ | ⟨part, rest, -, h⟩⟩ := matches_capture_cons_iff.mp h
    · exact ih₂ h
    · -- a longer capture would have been found
      obtain ⟨found, hf⟩ := Option.ne_none_iff_exists'.mp (ih₁ h)
      obtain ⟨part', ds', rest', -, rfl, -⟩ := matches_capture_iff.mp (matches_of_captures hf)
      exact absurd hf (hc part' rest')

end RouteTemplate.Pattern
