import RouteTemplate.Typed.Reading

/-!
# RouteTemplate.Typed.Path — paths of words

A path is a list of words with a mark between neighbours, and perhaps a mark in front.  A visibility
may name one, or one of the ancestors by its keyword.
-/

namespace RouteTemplate.Typed

/-- A path of words. -/
structure Path where
  /-- Whether a mark stands in front. -/
  rooted : Bool
  words : List (List Char)
deriving DecidableEq, Repr

/-- The mark between the words of a path. -/
def Path.mark : List Char := [':', ':']

/-- A path without blanks. -/
def Path.text (p : Path) : List Char :=
  (if p.rooted then mark else []) ++ mark.intercalate p.words

/-- A path with blanks around its marks. -/
def Path.spacedText (p : Path) : List Char :=
  (if p.rooted then mark ++ [' '] else []) ++ (' ' :: mark ++ [' ']).intercalate p.words

/-- Keywords that a path may hold. -/
def pathKeywords : List (List Char) := ["super", "self", "Self", "crate"].map String.toList

/-- Whether a word may stand in a path. -/
def isPathWord (t : List Char) (raw : Bool) : Bool :=
  raw || !Naming.isReserved t || pathKeywords.contains t

/-- The words at the front of tokens, each but the last with a mark behind it, whether a mark comes
last, and the tokens behind. -/
def spanPath : List Token → List (List Char) × Bool × List Token
  | .word t raw :: .sign ':' true :: .sign ':' j :: rest =>
    if isPathWord t raw then
      let (words, trailing, behind) := spanPath rest
      (wordText t raw :: words, trailing || words.isEmpty, behind)
    else ([], false, .word t raw :: .sign ':' true :: .sign ':' j :: rest)
  | .word t raw :: rest =>
    if isPathWord t raw then ([wordText t raw], false, rest) else ([], false, .word t raw :: rest)
  | ts => ([], false, ts)

/-- Reads a path. -/
def readPath (ts : List Token) : Reading Path :=
  let (rooted, ts) : Bool × List Token :=
    match afterMark? Path.mark ts with
    | some rest => (true, rest)
    | none => (false, ts)
  match spanPath ts with
  | ([], _, rest) =>
    match readIdentifier rest with
    | .error e => .error e
    | .ok _ => .error (.expectedIdentifier false)
  | (_, true, rest) => .error (.expectedPathWord rest.isEmpty)
  | (words, false, rest) => .ok (⟨rooted, words⟩, rest)

/-! ### Visibility -/

/-- Who can see what is declared. -/
inductive Visibility where
  | inherited
  | everyone
  /-- Everyone within one of the named ancestors. -/
  | ancestor (keyword : List Char)
  /-- Everyone within a path. -/
  | path (path : Path)
deriving DecidableEq, Repr

/-- A visibility as it is written. -/
def Visibility.text : Visibility → List Char
  | .inherited => []
  | .everyone => "pub".toList
  | .ancestor k => "pub(".toList ++ k ++ [')']
  | .path p => "pub(in ".toList ++ p.text ++ [')']

/-- Keywords for an ancestor. -/
def ancestorKeywords : List (List Char) := ["crate", "self", "super"].map String.toList

/-- Reads the brackets of a visibility.  Brackets that hold no restriction are left where they
are. -/
def readRestriction (r : Remainder) : Except DeclarationError (Visibility × Remainder) :=
  match r.tokens with
  | .group .paren (.word k false :: inner) :: rest =>
    if ancestorKeywords.contains k && inner.isEmpty then .ok (.ancestor k, r.behind rest)
    else if k = ['i', 'n'] then
      match readPath inner with
      | .error e => .error e
      | .ok (p, left) => .ok (.path p, (r.inside left).leave .paren rest)
    else .ok (.everyone, r)
  | _ => .ok (.everyone, r)

/-- Reads a visibility. -/
def readVisibility (r : Remainder) : Except DeclarationError (Visibility × Remainder) :=
  if beginsWithWord "pub" r.tokens then readRestriction (r.behind (r.tokens.drop 1))
  else .ok (.inherited, r)

end RouteTemplate.Typed
