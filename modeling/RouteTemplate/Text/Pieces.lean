/-!
# RouteTemplate.Text.Pieces — a text and its pieces between slashes

A template and a path are both read as the list of their pieces between slashes.  Splitting and
joining are inverse to each other: `joinPieces_pieces` for every text, `pieces_joinPieces` for every
non-empty list of pieces that hold no slash.
-/

namespace RouteTemplate

/-- The pieces of a text between the places where a mark stands; a text without the mark is one
piece. -/
def piecesAt (mark : Char) : List Char → List (List Char)
  | [] => [[]]
  | c :: cs =>
    if c = mark then [] :: piecesAt mark cs
    else
      match piecesAt mark cs with
      | [] => [[c]]
      | p :: ps => (c :: p) :: ps

/-- The pieces of a text between its slashes. -/
def pieces (cs : List Char) : List (List Char) := piecesAt '/' cs

/-- The text with the given pieces, one slash between neighbours. -/
def joinPieces : List (List Char) → List Char
  | [] => []
  | [p] => p
  | p :: q :: ps => p ++ '/' :: joinPieces (q :: ps)

@[simp] theorem pieces_nil : pieces [] = [[]] := rfl

@[simp] theorem pieces_slash (cs : List Char) : pieces ('/' :: cs) = [] :: pieces cs := by
  simp [pieces, piecesAt]

theorem piecesAt_ne_nil (mark : Char) (cs : List Char) : piecesAt mark cs ≠ [] := by
  cases cs with
  | nil => simp [piecesAt]
  | cons c cs =>
    unfold piecesAt
    by_cases h : c = mark
    · simp [h]
    · cases hp : piecesAt mark cs <;> simp [h]

theorem pieces_ne_nil (cs : List Char) : pieces cs ≠ [] := piecesAt_ne_nil '/' cs

/-- A character other than a slash belongs to the first piece. -/
theorem pieces_cons {c : Char} {cs p : List Char} {ps : List (List Char)} (h : c ≠ '/')
    (hp : pieces cs = p :: ps) : pieces (c :: cs) = (c :: p) :: ps := by
  unfold pieces at hp ⊢
  simp [piecesAt, h, hp]

@[simp] theorem joinPieces_singleton (p : List Char) : joinPieces [p] = p := rfl

@[simp] theorem joinPieces_cons_cons (p q : List Char) (ps : List (List Char)) :
    joinPieces (p :: q :: ps) = p ++ '/' :: joinPieces (q :: ps) := rfl

/-- A character put before a first piece is put before the joined text. -/
theorem joinPieces_cons_head (c : Char) (p : List Char) (ps : List (List Char)) :
    joinPieces ((c :: p) :: ps) = c :: joinPieces (p :: ps) := by
  cases ps <;> simp

theorem joinPieces_pieces (cs : List Char) : joinPieces (pieces cs) = cs := by
  induction cs with
  | nil => rfl
  | cons c cs ih =>
    obtain ⟨p, ps, hp⟩ := List.exists_cons_of_ne_nil (pieces_ne_nil cs)
    rw [hp] at ih
    by_cases h : c = '/'
    · subst h
      rw [pieces_slash, hp, joinPieces_cons_cons, ih]
      rfl
    · rw [pieces_cons h hp, joinPieces_cons_head, ih]

theorem slash_notMem_pieces (cs : List Char) : ∀ p ∈ pieces cs, '/' ∉ p := by
  induction cs with
  | nil => simp
  | cons c cs ih =>
    obtain ⟨p, ps, hp⟩ := List.exists_cons_of_ne_nil (pieces_ne_nil cs)
    rw [hp] at ih
    by_cases h : c = '/'
    · subst h
      rw [pieces_slash, hp]
      simpa using ih
    · have h' : '/' ≠ c := fun e => h e.symm
      rw [pieces_cons h hp]
      simpa [h'] using ih

/-- A text without a slash in front of a slash is the first piece. -/
theorem pieces_append_slash {p : List Char} (hp : '/' ∉ p) (cs : List Char) :
    pieces (p ++ '/' :: cs) = p :: pieces cs := by
  induction p with
  | nil => simp
  | cons c p ih =>
    have hc : c ≠ '/' := fun e => hp (by simp [e])
    exact pieces_cons hc (ih fun e => hp (by simp [e]))

theorem pieces_of_notMem {p : List Char} (hp : '/' ∉ p) : pieces p = [p] := by
  induction p with
  | nil => rfl
  | cons c p ih =>
    have hc : c ≠ '/' := fun e => hp (by simp [e])
    exact pieces_cons hc (ih fun e => hp (by simp [e]))

theorem pieces_joinPieces {ps : List (List Char)} (hne : ps ≠ []) (h : ∀ p ∈ ps, '/' ∉ p) :
    pieces (joinPieces ps) = ps := by
  induction ps with
  | nil => exact absurd rfl hne
  | cons p ps ih =>
    cases ps with
    | nil => exact pieces_of_notMem (h p (by simp))
    | cons q qs =>
      rw [joinPieces_cons_cons, pieces_append_slash (h p (by simp)),
        ih (by simp) (fun x hx => h x (by simp [hx]))]

end RouteTemplate
