import RouteTemplate.Text.Pieces
import RouteTemplate.Text.Quoted

/-!
# RouteTemplate.Template.Basic — templates

A template is a text whose pieces between slashes are its segments.  A piece that begins with a
colon is a parameter, named by the rest of the piece; any other piece is literal text.  A parameter
has a name, the name does not begin with a colon, and no two parameters share one.  These rules are
part of the type, so a `Template` is a well-formed one, and `Template.compile` either gives the
template of a text or says which rule the first faulty piece breaks.
-/

namespace RouteTemplate

/-- One piece of a template. -/
inductive Segment where
  | literal (text : List Char)
  | param (name : List Char)
deriving DecidableEq, Repr

namespace Segment

/-- A segment as it is written. -/
def text : Segment → List Char
  | .literal t => t
  | .param n => ':' :: n

/-- The name of a parameter segment. -/
def name? : Segment → Option (List Char)
  | .literal _ => none
  | .param n => some n

/-- What a piece of a well-formed template satisfies. -/
def WellFormed : Segment → Prop
  | .literal t => '/' ∉ t ∧ t.head? ≠ some ':'
  | .param n => '/' ∉ n ∧ n ≠ [] ∧ n.head? ≠ some ':'

instance : DecidablePred WellFormed
  | .literal t => inferInstanceAs (Decidable ('/' ∉ t ∧ t.head? ≠ some ':'))
  | .param n => inferInstanceAs (Decidable ('/' ∉ n ∧ n ≠ [] ∧ n.head? ≠ some ':'))

@[simp] theorem text_literal (t : List Char) : (Segment.literal t).text = t := rfl

@[simp] theorem text_param (n : List Char) : (Segment.param n).text = ':' :: n := rfl

@[simp] theorem name?_literal (t : List Char) : (Segment.literal t).name? = none := rfl

@[simp] theorem name?_param (n : List Char) : (Segment.param n).name? = some n := rfl

theorem WellFormed.slash_notMem {s : Segment} (h : s.WellFormed) : '/' ∉ s.text := by
  cases s with
  | literal t => exact h.1
  | param n => simpa using h.1

end Segment

/-- The parameter names of a list of segments, in order. -/
def paramNames (ss : List Segment) : List (List Char) := ss.filterMap Segment.name?

@[simp] theorem paramNames_nil : paramNames [] = [] := rfl

@[simp] theorem paramNames_literal_cons (t : List Char) (ss : List Segment) :
    paramNames (.literal t :: ss) = paramNames ss := rfl

@[simp] theorem paramNames_param_cons (n : List Char) (ss : List Segment) :
    paramNames (.param n :: ss) = n :: paramNames ss := rfl

theorem paramNames_cons (s : Segment) (ss : List Segment) :
    paramNames (s :: ss) = s.name?.toList ++ paramNames ss := by
  cases s <;> rfl

/-! ### Faults -/

/-- What a piece of a text does wrong. -/
inductive Fault where
  /-- A lone colon. -/
  | emptyName
  /-- A parameter name that begins with a colon. -/
  | malformedName (name : List Char)
  /-- A parameter name that an earlier piece has. -/
  | duplicateName (name : List Char)
deriving DecidableEq, Repr

/-- The first fault of a text that is no template. -/
structure CompileError where
  template : List Char
  fault : Fault
deriving DecidableEq, Repr

/-- The text of a fault found in a template. -/
def Fault.message (template : List Char) : Fault → String
  | .emptyName => "template " ++ Quoted.quoted template ++ " has a parameter segment without a name"
  | .malformedName n =>
    "template " ++ Quoted.quoted template ++ " has malformed parameter name " ++ Quoted.quoted n
  | .duplicateName n =>
    "template " ++ Quoted.quoted template ++ " uses parameter name " ++ Quoted.quoted n
      ++ " more than once"

/-- The text of a compile error. -/
def CompileError.message (e : CompileError) : String := e.fault.message e.template

/-! ### Reading segments -/

/-- The segment of a piece that comes after parameters with the names `seen`. -/
def Segment.read (seen : List (List Char)) : List Char → Except Fault Segment
  | ':' :: name =>
    if name = [] then .error .emptyName
    else if name.head? = some ':' then .error (.malformedName name)
    else if seen.contains name then .error (.duplicateName name)
    else .ok (.param name)
  | text => .ok (.literal text)

/-- The segments of pieces that come after parameters with the names `seen`. -/
def readSegments (seen : List (List Char)) : List (List Char) → Except Fault (List Segment)
  | [] => .ok []
  | p :: ps =>
    match Segment.read seen p with
    | .error e => .error e
    | .ok s =>
      match readSegments (seen ++ s.name?.toList) ps with
      | .error e => .error e
      | .ok ss => .ok (s :: ss)

theorem Segment.read_eq_ok {seen : List (List Char)} {p : List Char} {s : Segment}
    (h : Segment.read seen p = .ok s) :
    s.text = p ∧ ('/' ∉ p → s.WellFormed) ∧ ∀ n, s.name? = some n → n ∉ seen := by
  unfold Segment.read at h
  split at h
  · rename_i name
    split at h
    · simp at h
    split at h
    · simp at h
    split at h
    · simp at h
    rename_i hseen
    cases h
    refine ⟨rfl, fun hp => ⟨by simpa using hp, by assumption, by assumption⟩, ?_⟩
    rintro n ⟨rfl⟩
    simpa using hseen
  · rename_i hcolon
    cases h
    refine ⟨rfl, fun hp => ⟨hp, fun hh => ?_⟩, by simp⟩
    cases p with
    | nil => simp at hh
    | cons c cs => simp only [List.head?_cons, Option.some.injEq] at hh; exact hcolon cs (by rw [hh])

theorem readSegments_eq_ok {seen : List (List Char)} {ps : List (List Char)} {ss : List Segment}
    (h : readSegments seen ps = .ok ss) :
    ss.map Segment.text = ps ∧ ((∀ p ∈ ps, '/' ∉ p) → ∀ s ∈ ss, s.WellFormed) ∧
      (paramNames ss).Nodup ∧ ∀ n ∈ paramNames ss, n ∉ seen := by
  induction ps generalizing seen ss with
  | nil => cases h; simp
  | cons p ps ih =>
    unfold readSegments at h
    split at h
    · simp at h
    rename_i s hs
    split at h
    · simp at h
    rename_i ss' hss
    cases h
    obtain ⟨ht, hw, hn⟩ := Segment.read_eq_ok hs
    obtain ⟨iht, ihw, ihd, ihn⟩ := ih hss
    refine ⟨by simp [ht, iht], fun hp => ?_, ?_, ?_⟩
    · intro x hx
      rcases List.mem_cons.1 hx with rfl | hx
      · exact hw (hp p (by simp))
      · exact ihw (fun q hq => hp q (by simp [hq])) x hx
    · cases s with
      | literal t => simpa using ihd
      | param n => exact List.nodup_cons.2 ⟨fun hm => ihn n hm (by simp), ihd⟩
    · cases s with
      | literal t => simpa using ihn
      | param n =>
        intro m hm
        rcases List.mem_cons.1 hm with rfl | hm
        · exact hn m rfl
        · exact fun hs => ihn m hm (by simp [hs])

theorem readSegments_of_read_eq_ok {seen : List (List Char)} {p : List Char} {s : Segment}
    (h : Segment.read seen p = .ok s) (ps : List (List Char)) :
    readSegments seen (p :: ps) = (readSegments (seen ++ s.name?.toList) ps).map (s :: ·) := by
  simp only [readSegments, h]
  cases readSegments (seen ++ s.name?.toList) ps <;> rfl

theorem readSegments_of_read_eq_error {seen : List (List Char)} {p : List Char} {e : Fault}
    (h : Segment.read seen p = .error e) (ps : List (List Char)) :
    readSegments seen (p :: ps) = .error e := by
  simp only [readSegments, h]

theorem Segment.read_literal {seen : List (List Char)} {p : List Char}
    (h : ∀ name, p ≠ ':' :: name) : Segment.read seen p = .ok (.literal p) := by
  unfold Segment.read
  split
  · exact absurd rfl (h _)
  · rfl

/-! ### Templates -/

/-- A well-formed template. -/
structure Template where
  segments : List Segment
  segments_ne_nil : segments ≠ []
  wellFormed : ∀ s ∈ segments, s.WellFormed
  nodup : (paramNames segments).Nodup

namespace Template

@[ext] theorem ext {a b : Template} (h : a.segments = b.segments) : a = b := by
  cases a; cases b; cases h; rfl

/-- The template as it is written. -/
def text (t : Template) : List Char := joinPieces (t.segments.map Segment.text)

/-- The parameter names, in the order of their segments. -/
def names (t : Template) : List (List Char) := paramNames t.segments

/-- The raw segments; those of parameters keep their colon. -/
def rawSegments (t : Template) : List (List Char) := pieces t.text

/-- The number of parameters. -/
def paramCount (t : Template) : Nat := t.names.length

/-- Whether there are no parameters. -/
def isStatic (t : Template) : Bool := t.names.isEmpty

/-- The template of a text, or its first fault. -/
def compile (text : List Char) : Except CompileError Template :=
  match h : readSegments [] (pieces text) with
  | .error e => .error ⟨text, e⟩
  | .ok ss =>
    have hs := readSegments_eq_ok h
    .ok {
      segments := ss
      segments_ne_nil := fun hn => pieces_ne_nil text (by rw [← hs.1, hn]; rfl)
      wellFormed := hs.2.1 (slash_notMem_pieces text)
      nodup := hs.2.2.1 }

theorem compile_eq_ok_iff {text : List Char} {t : Template} :
    compile text = .ok t ↔ readSegments [] (pieces text) = .ok t.segments := by
  unfold compile
  split
  · rename_i e h
    simp [h]
  · rename_i ss h
    simp only [h, Except.ok.injEq]
    exact ⟨fun hc => by rw [← hc], fun hc => Template.ext hc⟩

theorem compile_eq_error_iff {text : List Char} {e : CompileError} :
    compile text = .error e ↔
      e.template = text ∧ readSegments [] (pieces text) = .error e.fault := by
  obtain ⟨template, fault⟩ := e
  unfold compile
  split
  · rename_i f h
    simp [h, eq_comm]
  · rename_i ss h
    simp [h]

/-- The template of a text, or the text of its first fault, for callers that only report it. -/
def compileOrReport (text : List Char) : Except String Template :=
  match compile text with
  | .error e => .error e.message
  | .ok t => .ok t

/-- The ways to make a template of a text. -/
inductive Constructor where
  /-- For a text that is known to be a template: a fault ends the program. -/
  | new
  | tryNew
  | parse
  | ofStr
  | ofString
deriving DecidableEq, Repr

/-- Why a constructor makes no template. -/
inductive ConstructError where
  /-- The first fault of the text. -/
  | reported (e : CompileError)
  /-- The end of the program, with a message. -/
  | abrupt (message : String)
deriving DecidableEq, Repr

/-- The template that a constructor makes of a text. -/
def Constructor.construct (c : Constructor) (text : List Char) : Except ConstructError Template :=
  match c with
  | .new =>
    match compileOrReport text with
    | .error message => .error (.abrupt message)
    | .ok t => .ok t
  | .tryNew | .parse | .ofStr | .ofString =>
    match compile text with
    | .error e => .error (.reported e)
    | .ok t => .ok t

/-- A template is written as the text that it was compiled from. -/
theorem text_of_compile {text : List Char} {t : Template} (h : compile text = .ok t) :
    t.text = text := by
  rw [Template.text, (readSegments_eq_ok (compile_eq_ok_iff.1 h)).1, joinPieces_pieces]

/-- Every segment is a piece of the template's text. -/
theorem pieces_text (t : Template) : pieces t.text = t.segments.map Segment.text := by
  refine pieces_joinPieces (by simpa using t.segments_ne_nil) fun p hp => ?_
  obtain ⟨s, hs, rfl⟩ := List.mem_map.1 hp
  exact (t.wellFormed s hs).slash_notMem

end Template

end RouteTemplate
