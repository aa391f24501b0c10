import RouteTemplate.Typed.Readers

/-!
# RouteTemplate.Typed.Type — types and the paths in them

A path has generic arguments, and these are lifetimes, constants, types and bounds.  A type is a path,
or is built from types by signs and brackets.
-/

namespace RouteTemplate.Typed

open DeclarationError (tickedText)

/-- What a type may begin with. -/
def typeStarts : List String :=
  [tickedText "for", "parentheses", tickedText "fn", tickedText "unsafe", tickedText "extern",
    "identifier", tickedText "::", tickedText "<", tickedText "dyn", "square brackets",
    tickedText "*", tickedText "&", tickedText "!", tickedText "impl", tickedText "_", "lifetime"]

/-- What a type behind lifetimes may begin with. -/
def boundTypeStarts : List String :=
  "identifier" :: ["fn", "unsafe", "extern", "super", "self", "Self", "crate"].map tickedText

/-- Reads the group of a macro behind its exclamation mark. -/
def readMacroGroup : List Token → Except DeclarationError (List Token)
  | .group _ _ :: rest => .ok rest
  | ts => .error (.expectedMacroGroup ts.isEmpty)

/-- Whether a path is called as a macro behind it; only one without generic arguments can be. -/
def callsMacro (isPlain : Bool) (ts : List Token) : Bool :=
  isPlain && beginsWith "!" ts && !beginsWith "!=" ts

/-- Reads a lifetime. -/
def passLifetime (r : Remainder) : Passing :=
  match afterLabel? r.tokens with
  | some rest => .ok (r.behind rest)
  | none => refuse ["lifetime"] r.tokens

/-- The tokens behind the attributes in front. -/
def behindAttributes : List Token → List Token
  | .sign '#' _ :: .group .bracket _ :: rest => behindAttributes rest
  | ts => ts

/-- Whether tokens begin with a bound. -/
def beginsWithBound (ts : List Token) : Bool :=
  beginsWithAnyWord ts || beginsWith "::" ts || beginsWith "?" ts || (afterLabel? ts).isSome ||
    beginsWithGroup .paren ts

/-- The tokens behind the keyword `extern` and the name of an interface, if they are there. -/
def skipExtern (ts : List Token) : List Token :=
  if beginsWithWord "extern" ts then
    match ts.drop 1 with
    | .literal _ (some _) :: rest => rest
    | rest => rest
  else ts

/-- The tokens behind the name of a parameter in a type of functions, if it has one. -/
def behindParameterName (ts : List Token) : List Token :=
  let next := ts.drop 1
  if (beginsWithIdentifier ts || beginsWithWord "_" ts || beginsWithWord "self" ts) &&
      beginsWith ":" next && !beginsWith "::" next then next.drop 1
  else ts

/-- Whether tokens begin with the parameter that stands for any number of them. -/
def beginsWithVariadic (ts : List Token) : Bool :=
  beginsWith "..." (behindParameterName (behindAttributes ts))

/-- Whether tokens begin with a constant that is no type. -/
def beginsWithConstant (ts : List Token) : Bool :=
  beginsWithLiteral ts || beginsWithGroup .brace ts

/-- Whether what comes next ends an argument or a parameter in angle brackets. -/
def endsArgument (ts : List Token) : Bool := beginsWith "," ts || beginsWith ">" ts

/-- Whether tokens begin with a type that can have lifetimes in front. -/
def beginsWithBoundType (ts : List Token) : Bool :=
  beginsWithIdentifier ts || beginsWithPathWord ts ||
    ["fn", "unsafe", "extern"].any (beginsWithWord · ts)

namespace Readers

variable (rd : Readers)

/-! ### Lifetimes -/

/-- Reads a lifetime with the attributes in front of it. -/
def readLifetime (r : Remainder) : Passing := do
  let r ← rd.readAttributes false r
  passLifetime r

/-- Reads the lifetimes that something is for, if there are any. -/
def readLifetimes (r : Remainder) : Passing :=
  if beginsWithWord "for" r.tokens then readAngled rd.readLifetime (r.behind (r.tokens.drop 1))
  else .ok r

/-! ### Words and bounds -/

/-- Reads the words of a path behind the first, and notes whether none of them has arguments. -/
def readMoreWords (inType : Bool) (first : Bool × Remainder) : Noting :=
  stepWhile
    (fun s => beginsWith "::" s.2.tokens && !beginsWithGroup .paren (s.2.tokens.drop 2))
    (fun s => do
      let (isPlain, r) ← rd.word inType (s.2.behind (s.2.tokens.drop 2))
      .ok (s.1 && isPlain, r))
    first.2.tokens first

/-- Reads the words of a path, and notes whether none of them has arguments. -/
def readWords (inType : Bool) (r : Remainder) : Noting := do
  let first ← rd.word inType r
  rd.readMoreWords inType first

/-- Reads the name of a trait.  The lifetimes that it is for stand in front of a question mark or
behind it. -/
def readTrait (r : Remainder) : Passing := do
  let isFor := beginsWithWord "for" r.tokens
  let r ← rd.readLifetimes r
  let next := r.behind (skipMark "?" r.tokens)
  let r ← if beginsWith "?" r.tokens && !isFor then rd.readLifetimes next else .ok next
  withoutNote (rd.readWords true (r.behind (skipMark "::" r.tokens)))

/-- Reads a bound, and notes whether it is a trait. -/
def readBound (r : Remainder) : Noting :=
  match afterLabel? r.tokens with
  | some rest => .ok (false, r.behind rest)
  | none =>
    match r.tokens with
    | .group .paren body :: rest => do
      let inner ← rd.readTrait (r.inside body)
      .ok (true, inner.leave .paren rest)
    | _ => withNote true (rd.readTrait r)

/-- Reads a bound of either kind. -/
def passBound (r : Remainder) : Passing := withoutNote (rd.readBound r)

/-- Reads the bounds that are added to the first, and notes whether any of them is a trait. -/
def readMoreBounds (first : Bool × Remainder) : Noting := do
  let (hasTrait, r) ←
    stepWhile (fun s => beginsWith "+" s.2.tokens && beginsWithBound (s.2.tokens.drop 1))
      (fun s => do
        let (isTrait, r) ← rd.readBound (s.2.behind (s.2.tokens.drop 1))
        .ok (s.1 || isTrait, r))
      first.2.tokens first
  .ok (hasTrait, r.behind (skipMark "+" r.tokens))

/-- Reads bounds, of which there may be several where `several` says so. -/
def readBounds (several : Bool) (r : Remainder) : Noting := do
  let first ← rd.readBound r
  if several then rd.readMoreBounds first else .ok first

/-- Reads the bounds of a type, one of which has to be a trait. -/
def readTraits (isObject several : Bool) (r : Remainder) : Passing := do
  let (hasTrait, r) ← rd.readBounds several r
  if hasTrait then .ok r else .error (.expectedTrait isObject)

/-! ### Paths -/

/-- Reads a constant: a literal, a name, or a block. -/
def readConstant (r : Remainder) : Passing :=
  let ts := r.tokens
  if beginsWithLiteral ts then .ok (r.behind (behindLiteral ts))
  else if beginsWithIdentifier ts then .ok (r.behind (ts.drop 1))
  else if beginsWithGroup .brace ts then rd.readBlock true r
  else refuse [] ts

/-- Reads what follows the path of a type: the group of a macro, or the bounds that are added to the
path where `several` says so. -/
def readPathEnd (several : Bool) (path : Bool × Remainder) : Passing :=
  let (isPlain, r) := path
  if callsMacro isPlain r.tokens then do
    let rest ← readMacroGroup (r.tokens.drop 1)
    .ok (r.behind rest)
  else if several then withoutNote (rd.readMoreBounds (true, r))
  else .ok r

/-- Reads a word among generic arguments that is set or bounded, or the type that it begins.  A word
with arguments in parentheses is neither. -/
def readSetWord (r : Remainder) : Passing := do
  let isCall := beginsWithGroup .paren (skipMark "::" (r.tokens.drop 1))
  let (isPlain, r) ← rd.word true r
  let next := r.behind (r.tokens.drop 1)
  if !isCall && beginsWith "=" r.tokens then
    if beginsWithConstant next.tokens then rd.readConstant next else rd.type true next
  else if !isCall && beginsWith ":" r.tokens && !beginsWith "::" r.tokens then
    readListed "+" endsArgument rd.passBound next
  else do
    let path ← rd.readMoreWords true (isPlain, r)
    rd.readPathEnd true path

/-- Reads one generic argument: a lifetime, a constant, a type, or a word that is set or bounded. -/
def readGeneric (r : Remainder) : Passing :=
  let ts := r.tokens
  match afterLabel? ts with
  | some rest => if beginsWith "+" rest then rd.type true r else .ok (r.behind rest)
  | none =>
    if beginsWithConstant ts then rd.readConstant r
    else if beginsWithIdentifier ts || beginsWithPathWord ts then rd.readSetWord r
    else rd.type true r

/-- Reads types with commas between them up to the end of a group. -/
def readTypes (r : Remainder) : Passing := readListed "," List.isEmpty (rd.type true) r

/-- Reads the type of a result behind its arrow, if there is one. -/
def readResult (several : Bool) (r : Remainder) : Passing :=
  match afterMark? "->".toList r.tokens with
  | some rest => rd.type several (r.behind rest)
  | none => .ok r

/-- Reads the arguments of a word, and notes whether it has none.  In a type they may be in
parentheses with a result behind them. -/
def readArguments (inType : Bool) (r : Remainder) : Noting :=
  let ts := r.tokens
  if inType && beginsWith "<" ts && !beginsWith "<=" ts then
    withNote false (readAngled rd.readGeneric r)
  else if beginsWith "::" ts && beginsWith "<" (ts.drop 2) then
    withNote false (readAngled rd.readGeneric (r.behind (ts.drop 2)))
  else if inType then
    match skipMark "::" ts with
    | .group .paren body :: rest => do
      let inner ← rd.readTypes (r.inside body)
      withNote false (rd.readResult false (inner.leave .paren rest))
    | _ => .ok (true, r)
  else .ok (true, r)

/-- Reads a word of a path, and notes whether it has no arguments. -/
def readPathWord (inType : Bool) (r : Remainder) : Noting :=
  let ts := r.tokens
  if ["super", "self", "crate", "try"].any (beginsWithWord · ts) then
    .ok (true, r.behind (ts.drop 1))
  else if beginsWithWord "Self" ts then rd.readArguments inType (r.behind (ts.drop 1))
  else do
    let (_, rest) ← readIdentifier ts
    rd.readArguments inType (r.behind rest)

/-- Reads a path that may begin with a type in angle brackets, and notes whether it is one of words
alone. -/
def readTypedPath (inType : Bool) (r : Remainder) : Noting :=
  if beginsWith "<" r.tokens then do
    let r ← rd.type true (r.behind (r.tokens.drop 1))
    let r ←
      if beginsWithWord "as" r.tokens then
        withoutNote (rd.readWords true (r.behind (skipMark "::" (r.tokens.drop 1))))
      else .ok r
    let rest ← readMark ">" r.tokens
    let rest ← readMark "::" rest
    withNote false (withoutNote (rd.readWords inType (r.behind rest)))
  else rd.readWords inType (r.behind (skipMark "::" r.tokens))

/-! ### Types -/

/-- Reads a parameter in a type of functions. -/
def readParameterType (r : Remainder) : Passing := do
  let r ← rd.readAttributes false r
  rd.type true (r.behind (behindParameterName r.tokens))

/-- Reads the parameters in a type of functions; the last one may stand for any number of them. -/
def readParameterTypes (r : Remainder) : Passing := do
  let r ← readUpTo beginsWithVariadic rd.readParameterType r
  if beginsWithVariadic r.tokens then do
    let r ← rd.readAttributes false r
    .ok (r.behind (skipMark "," ((behindParameterName r.tokens).drop 3)))
  else .ok r

/-- Reads a type of functions. -/
def readFunctionType (r : Remainder) : Passing := do
  let rest ← readWord "fn" (skipExtern (skipWord "unsafe" r.tokens))
  let (parameters, rest) ← readGroup .paren rest
  let inner ← rd.readParameterTypes (r.inside parameters)
  rd.readResult false (inner.leave .paren rest)

/-- Reads a type in parentheses, or a tuple of types. -/
def readTupleType (body : List Token) (r : Remainder) : Passing :=
  if body.isEmpty then .ok (r.inside body)
  else do
    let inner ← rd.type true (r.inside body)
    if beginsWith "," inner.tokens then rd.readTypes (inner.behind (inner.tokens.drop 1))
    else .ok inner

/-- Reads the type of an array or a slice inside its brackets. -/
def readArrayType (body : List Token) (r : Remainder) : Passing := do
  let inner ← rd.type true (r.inside body)
  if beginsWith ";" inner.tokens then rd.readExpression true (inner.behind (inner.tokens.drop 1))
  else .ok inner

/-- Reads a type that is a path or a macro; bounds may be added to it where `several` says so. -/
def readPathType (several : Bool) (r : Remainder) : Passing := do
  let isQualified := beginsWith "<" r.tokens
  let path ← rd.readTypedPath true r
  rd.readPathEnd (several && !isQualified) path

/-- Reads a type. -/
def readType (several : Bool) (r : Remainder) : Passing := do
  let isFor := beginsWithWord "for" r.tokens
  let r ← rd.readLifetimes r
  let ts := r.tokens
  let next := ts.drop 1
  if isFor && !beginsWithBoundType ts then refuse boundTypeStarts ts
  else if ["fn", "unsafe", "extern"].any (beginsWithWord · ts) then rd.readFunctionType r
  else if beginsWithPath ts then rd.readPathType several r
  else if beginsWithWord "dyn" ts then
    rd.readTraits true several (r.behind (skipMark "*" next))
  else if beginsWithWord "impl" ts then rd.readTraits false several (r.behind next)
  else if (afterLabel? ts).isSome then rd.readTraits true several r
  else if beginsWith "*" ts then
    if beginsWithWord "const" next || beginsWithWord "mut" next then
      rd.type false (r.behind (next.drop 1))
    else refuse (["const", "mut"].map tickedText) next
  else if beginsWith "&" ts then rd.type false (r.behind (skipWord "mut" (skipLabel next)))
  else if (beginsWith "!" ts && !beginsWith "!=" ts) || beginsWithWord "_" ts then
    .ok (r.behind next)
  else
    match ts with
    | .group .paren body :: rest => do
      let inner ← rd.readTupleType body r
      .ok (inner.leave .paren rest)
    | .group .bracket body :: rest => do
      let inner ← rd.readArrayType body r
      .ok (inner.leave .bracket rest)
    | ts => refuse typeStarts ts

end Readers

end RouteTemplate.Typed
