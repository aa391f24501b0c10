import RouteTemplate.Typed.Type

/-!
# RouteTemplate.Typed.Pattern — patterns

A pattern stands alone, or it is one of several with bars between them.  A range may lack one of its
ends, but not where it stands alone in a list in brackets.
-/

namespace RouteTemplate.Typed

open DeclarationError (tickedText)

/-- What a pattern may begin with. -/
def patternStarts : List String :=
  ["identifier", tickedText "::", tickedText "<", tickedText "_", "literal", tickedText "const",
    tickedText "ref", tickedText "mut", tickedText "&", "parentheses", "square brackets",
    tickedText "..", tickedText "const"]

/-- What the end of a range in a pattern may begin with. -/
def boundStarts : List String :=
  ["literal", "identifier"] ++ ["::", "<", "self", "Self", "super", "crate", "const"].map tickedText

/-- Whether tokens begin with a pattern that is a path or has one in front. -/
def beginsWithPathPattern (ts : List Token) : Bool :=
  let next := ts.drop 1
  (beginsWithIdentifier ts && (["::", "!", ".."].any (beginsWith · next) ||
      [Delimiter.brace, .paren].any (beginsWithGroup · next))) ||
    (beginsWithWord "self" ts && beginsWith "::" next) ||
    ["::", "<"].any (beginsWith · ts) || ["Self", "super", "crate"].any (beginsWithWord · ts)

/-- Whether what comes next ends a pattern, so that a range in front of it has no end. -/
def endsPattern (ts : List Token) : Bool :=
  ts.isEmpty || ["|", "=", ",", ";"].any (beginsWith · ts) ||
    (beginsWith ":" ts && !beginsWith "::" ts) || beginsWithWord "if" ts

/-- Whether a bar stands here that another pattern follows. -/
def beginsWithBar (ts : List Token) : Bool :=
  beginsWith "|" ts && !beginsWith "||" ts && !beginsWith "|=" ts

/-- The tokens behind the sign of a range, and whether the range includes its end. -/
def behindRangeSign (ts : List Token) : Bool × List Token :=
  if beginsWith "..=" ts || beginsWith "..." ts then (true, ts.drop 3) else (false, ts.drop 2)

/-- Reads a word that is an identifier or the receiver. -/
def readBoundName (ts : List Token) : Except DeclarationError (List Token) :=
  if beginsWithWord "self" ts then .ok (ts.drop 1)
  else do
    let (_, rest) ← readIdentifier ts
    .ok rest

/-- Whether tokens begin with the mark for all fields that are left, attributes apart. -/
def beginsWithRest (ts : List Token) : Bool := beginsWith ".." (behindAttributes ts)

namespace Readers

variable (rd : Readers)

/-! ### Ranges -/

/-- Reads an end of a range, and notes whether it has one. -/
def readRangeBound (r : Remainder) : Noting :=
  let ts := r.tokens
  if endsPattern ts then .ok (false, r)
  else if beginsWithLiteral ts then .ok (true, r.behind (behindLiteral ts))
  else if beginsWithPath ts then withNote true (withoutNote (rd.readTypedPath false r))
  else if beginsWithWord "const" ts then
    withNote true (rd.readBlock true (r.behind (ts.drop 1)))
  else refuse boundStarts ts

/-- Reads the sign and the end of a range, and notes whether the range has just one end; one without
any stands for the rest. -/
def readRangePattern (hasStart : Bool) (r : Remainder) : Noting := do
  let (isClosed, rest) := behindRangeSign r.tokens
  let (hasEnd, r) ← rd.readRangeBound (r.behind rest)
  if isClosed && !hasEnd then refuse ["range upper bound"] r.tokens
  else .ok (hasStart != hasEnd, r)

/-! ### Lists of patterns -/

/-- Reads patterns with bars between them, and notes whether there is one alone that is a range which
lacks an end. -/
def readAlternatives (r : Remainder) : Noting := do
  let hasBar := beginsWith "|" r.tokens
  let (isOpen, r) ← rd.pattern (r.behind (skipMark "|" r.tokens))
  let isAlone := !hasBar && !beginsWithBar r.tokens
  withNote (isOpen && isAlone)
    (readWhile beginsWithBar
      (fun r => withoutNote (rd.pattern (r.behind (r.tokens.drop 1)))) r)

/-- Reads an element of a list of patterns; `inSlice` says that the list is in square brackets. -/
def readElement (inSlice : Bool) (r : Remainder) : Passing := do
  let (isOpen, r) ← rd.readAlternatives r
  if inSlice && isOpen then .error .openRange else .ok r

/-- Reads the patterns of a list inside its brackets. -/
def readElements (inSlice : Bool) (r : Remainder) : Passing :=
  readListed "," List.isEmpty (rd.readElement inSlice) r

/-- Reads the pattern of a field, or the name that the field is bound to. -/
def readFieldPattern (r : Remainder) : Passing := do
  let r ← rd.readAttributes false r
  let ts := skipWord "mut" (skipWord "ref" (skipWord "box" r.tokens))
  let isBinding := ["box", "ref", "mut"].any (beginsWithWord · r.tokens)
  if beginsWithNumber ts && !isBinding then do
    let rest ← readMark ":" (ts.drop 1)
    withoutNote (rd.readAlternatives (r.behind rest))
  else if !isBinding && !beginsWithIdentifier ts then refuse memberStarts ts
  else do
    let (_, rest) ← readIdentifier ts
    if !isBinding && beginsWith ":" rest then
      withoutNote (rd.readAlternatives (r.behind (rest.drop 1)))
    else .ok (r.behind rest)

/-- Reads the patterns of fields inside their braces. -/
def readFieldPatterns (r : Remainder) : Passing := do
  let r ← readUpTo beginsWithRest rd.readFieldPattern r
  let r ← rd.readAttributes false r
  .ok (r.behind (skipMark ".." r.tokens))

/-! ### Patterns -/

/-- Reads a pattern that begins with a path. -/
def readPathPattern (r : Remainder) : Noting := do
  let (isPlain, r) ← rd.readTypedPath false r
  if callsMacro isPlain r.tokens then
    let rest ← readMacroGroup (r.tokens.drop 1)
    .ok (false, r.behind rest)
  else
    match r.tokens with
    | .group .brace body :: rest => do
      let inner ← rd.readFieldPatterns (r.inside body)
      .ok (false, inner.leave .brace rest)
    | .group .paren body :: rest => do
      let inner ← rd.readElements false (r.inside body)
      .ok (false, inner.leave .paren rest)
    | ts => if beginsWith ".." ts then rd.readRangePattern true r else .ok (false, r)

/-- Reads a name with the pattern that is bound to it, if there is one. -/
def readBinding (r : Remainder) : Passing := do
  let rest ← readBoundName (skipWord "mut" (skipWord "ref" r.tokens))
  if beginsWith "@" rest then withoutNote (rd.pattern (r.behind (rest.drop 1)))
  else .ok (r.behind rest)

/-- Reads a pattern without bars, and notes whether it is a range that lacks an end. -/
def readPattern (r : Remainder) : Noting :=
  let ts := r.tokens
  let next := r.behind (ts.drop 1)
  if beginsWithPathPattern ts then rd.readPathPattern r
  else if beginsWithWord "_" ts then .ok (false, next)
  else if beginsWithWord "box" ts then withNote false (withoutNote (rd.pattern next))
  else if beginsWith "-" ts || beginsWithLiteral ts || beginsWithWord "const" ts then do
    let (_, r) ← rd.readRangeBound r
    if beginsWith ".." r.tokens then rd.readRangePattern true r else .ok (false, r)
  else if ["ref", "mut", "self"].any (beginsWithWord · ts) || beginsWithIdentifier ts then
    withNote false (rd.readBinding r)
  else if beginsWith "&" ts then
    withNote false (withoutNote (rd.pattern (r.behind (skipWord "mut" next.tokens))))
  else if beginsWith ".." ts && !beginsWith "..." ts then rd.readRangePattern false r
  else
    match ts with
    | .group .paren body :: rest => do
      let inner ← rd.readElements false (r.inside body)
      .ok (false, inner.leave .paren rest)
    | .group .bracket body :: rest => do
      let inner ← rd.readElements true (r.inside body)
      .ok (false, inner.leave .bracket rest)
    | ts => refuse patternStarts ts

end Readers

end RouteTemplate.Typed
