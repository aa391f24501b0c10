import RouteTemplate.Template.Basic

/-!
# RouteTemplate.Template.Pattern — the pattern of a template

A template with parameters is matched as a pattern: literal characters and captures of one or more
characters other than a slash.  `Pattern.captures` lets each capture take as much as it can and falls
back to less, `Pattern.accepts` only decides.  `Pattern.text` writes a pattern down as an anchored
expression.
-/

namespace RouteTemplate

/-- A unit of a pattern. -/
inductive PatternItem where
  /-- One given character. -/
  | char (c : Char)
  /-- One or more characters other than a slash, which are captured. -/
  | capture
deriving DecidableEq, Repr

/-- A pattern that a text has to match from its start to its end. -/
abbrev Pattern := List PatternItem

namespace Pattern

/-- The pattern of a segment. -/
def ofSegment : Segment → Pattern
  | .literal t => t.map .char
  | .param _ => [.capture]

/-- The pattern of segments with slashes between them. -/
def ofSegments : List Segment → Pattern
  | [] => []
  | [s] => ofSegment s
  | s :: s' :: ss => ofSegment s ++ .char '/' :: ofSegments (s' :: ss)

/-! ### Matching -/

/-- What the captures of a pattern take of a text, if it matches. -/
def captures : Pattern → List Char → Option (List (List Char))
  | [], [] => some []
  | [], _ :: _ => none
  | _ :: _, [] => none
  | .char c :: items, d :: ds => if c = d then captures items ds else none
  | .capture :: items, d :: ds =>
    if d = '/' then none
    else
      match captures (.capture :: items) ds with
      | some (taken :: others) => some ((d :: taken) :: others)
      | _ => (captures items ds).map ([d] :: ·)

/-- Whether a text matches a pattern. -/
def accepts : Pattern → List Char → Bool
  | [], [] => true
  | [], _ :: _ => false
  | _ :: _, [] => false
  | .char c :: items, d :: ds => c == d && accepts items ds
  | .capture :: items, d :: ds => d != '/' && (accepts (.capture :: items) ds || accepts items ds)

/-! ### Written form -/

/-- Characters that are operators in an expression unless a backslash stands before them. -/
def metaCharacters : List Char :=
  ['\\', '.', '+', '*', '?', '(', ')', '|', '[', ']', '{', '}', '^', '$', '#', '&', '-', '~']

/-- The expression for a capture. -/
def captureText : List Char := ['(', '[', '^', '/', ']', '+', ')']

/-- A unit as it is written. -/
def itemText : PatternItem → List Char
  | .char c => if c ∈ metaCharacters then ['\\', c] else [c]
  | .capture => captureText

/-- A pattern as an expression anchored at both ends. -/
def text (p : Pattern) : List Char := '^' :: p.flatMap itemText ++ ['$']

end Pattern

/-- The pattern of a template. -/
def Template.pattern (t : Template) : Pattern := Pattern.ofSegments t.segments

end RouteTemplate
