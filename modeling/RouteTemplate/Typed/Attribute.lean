import RouteTemplate.Text.Pieces
import RouteTemplate.Typed.Path

/-!
# RouteTemplate.Typed.Attribute — attributes of a declaration

An attribute has a path, and then nothing, a value behind an equals sign, or items in brackets.  A
value other than a lone text is an expression, which can hold attributes itself; how it is read is a
parameter here.
-/

namespace RouteTemplate.Typed

/-- What an attribute holds besides its path. -/
inductive AttributeContent where
  | nothing
  | text (value : List Char)
  /-- A value that is no text. -/
  | value
  | items (items : List (List Char))
deriving DecidableEq, Repr

/-- An attribute. -/
structure Attribute where
  path : Path
  content : AttributeContent
deriving DecidableEq, Repr

/-- The items in brackets: the parts of their text between its commas. -/
def itemsOf (body : List Token) : List (List Char) :=
  (piecesAt ',' (tokensText body)).map Unicode.trim

/-- Reads the path of an attribute, which may be the keyword `unsafe`. -/
def readAttributePath (ts : List Token) : Reading Path :=
  if beginsWithWord "unsafe" ts then .ok (⟨false, ["unsafe".toList]⟩, ts.drop 1) else readPath ts

/-- Whether an equals sign that is no part of a longer mark stands at the front of tokens. -/
def beginsWithEquals (ts : List Token) : Bool :=
  beginsWith "=" ts && !beginsWith "==" ts && !beginsWith "=>" ts

section Readers

variable (readValue : Remainder → Passing)

/-- Reads the value behind the equals sign of an attribute.  A lone text is the value as it is. -/
def readAttributeValue (r : Remainder) :
    Except DeclarationError (AttributeContent × Remainder) :=
  match r.tokens with
  | [.literal _ (some v)] => .ok (.text v, r.behind [])
  | .sign '#' _ :: .group .bracket _ :: _ => .error .nestedAttribute
  | _ => withNote .value (readValue r)

/-- Reads the body of an attribute; tokens may be left over. -/
def readAttributeBody (r : Remainder) : Except DeclarationError (Attribute × Remainder) := do
  let (path, rest) ← readAttributePath r.tokens
  match rest with
  | .group _ body :: rest => .ok (⟨path, .items (itemsOf body)⟩, r.behind rest)
  | rest =>
    if beginsWithEquals rest then
      let (content, r) ← readAttributeValue readValue (r.behind (rest.drop 1))
      .ok (⟨path, content⟩, r)
    else .ok (⟨path, .nothing⟩, r.behind rest)

/-- Whether tokens begin with an attribute; one that belongs to what is around it has a mark. -/
def beginsWithAttribute (isInner : Bool) (ts : List Token) : Bool :=
  beginsWith "#" ts && (!isInner || beginsWith "!" (ts.drop 1))

/-- Reads an attribute behind some others. -/
def readAttribute (isInner : Bool) (s : List Attribute × Remainder) :
    Except DeclarationError (List Attribute × Remainder) := do
  let (body, rest) ← readGroup .bracket (s.2.tokens.drop (if isInner then 2 else 1))
  let (a, inner) ← readAttributeBody readValue (s.2.inside body)
  .ok (s.1 ++ [a], inner.leave .bracket rest)

/-- Reads the attributes at the front of tokens. -/
def readAttributesOf (isInner : Bool) (r : Remainder) :
    Except DeclarationError (List Attribute × Remainder) :=
  stepWhile (fun s => beginsWithAttribute isInner s.2.tokens) (readAttribute readValue isInner)
    r.tokens ([], r)

end Readers

end RouteTemplate.Typed
