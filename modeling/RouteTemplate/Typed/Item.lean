import RouteTemplate.Typed.Expression

/-!
# RouteTemplate.Typed.Item — items

A block can hold items: functions, constants, types and the groups of them that traits,
implementations, modules and foreign interfaces are.  An item begins with a visibility and is told by
the keywords behind it.
-/

namespace RouteTemplate.Typed

open DeclarationError (tickedText)

/-! ### What items begin with -/

/-- The tokens behind the keywords in front of a function. -/
def behindQualifiers (allowsSafe : Bool) (ts : List Token) : List Token :=
  let ts := skipWord "async" (skipWord "const" ts)
  skipExtern (if allowsSafe && beginsWithWord "safe" ts then ts.drop 1 else skipWord "unsafe" ts)

/-- Whether tokens begin with a function. -/
def beginsWithFunction (allowsSafe : Bool) (ts : List Token) : Bool :=
  beginsWithWord "fn" (behindQualifiers allowsSafe ts)

/-- Whether tokens begin with a trait that types have of themselves. -/
def beginsWithAutoTrait (ts : List Token) : Bool :=
  beginsWithWord "auto" ts && beginsWithWord "trait" (ts.drop 1)

/-- Whether tokens begin with a path without generic arguments, as far as the first tells. -/
def beginsWithPlainPath (ts : List Token) : Bool :=
  beginsWithIdentifier ts || beginsWith "::" ts ||
    ["self", "super", "crate"].any (beginsWithWord · ts)

/-- What such a path may begin with. -/
def plainPathStarts : List String := "identifier" :: ["self", "super", "crate", "::"].map tickedText

/-- What an item may begin with behind its visibility. -/
def itemStarts : List String :=
  ["fn", "extern", "use", "static", "const", "unsafe", "mod", "type", "struct", "enum", "union",
    "trait", "auto", "impl", "default", "macro"].map tickedText

/-- What the tree of a use may begin with. -/
def useStarts : List String :=
  "identifier" :: ["self", "super", "crate", "try", "*"].map tickedText ++ [Delimiter.brace.name]

/-- Whether what comes next ends a bound or a list of conditions. -/
def endsCondition (ts : List Token) : Bool :=
  ts.isEmpty || beginsWithGroup .brace ts || [",", ";", "="].any (beginsWith · ts) ||
    (beginsWith ":" ts && !beginsWith "::" ts)

/-- The tokens behind a receiver without its type, if they begin with one. -/
def afterReceiver? (ts : List Token) : Option (List Token) :=
  let ts := if beginsWith "&" ts then skipLabel (ts.drop 1) else ts
  let ts := skipWord "mut" ts
  if beginsWithWord "self" ts && !beginsWith "::" (ts.drop 1) then some (ts.drop 1) else none

/-! ### Names and macros -/

/-- Reads a name that may be left out by an underscore. -/
def readNameOrBlank (starts : List String) (ts : List Token) :
    Except DeclarationError (List Token) :=
  if beginsWithIdentifier ts || beginsWithWord "_" ts then .ok (ts.drop 1) else refuse starts ts

/-- Reads a name. -/
def passIdentifier (ts : List Token) : Except DeclarationError (List Token) := do
  let (_, rest) ← readIdentifier ts
  .ok rest

/-- Reads a macro that stands as an item, and its semicolon if it has one; `named` says whether a
name may stand in front of its group. -/
def readMacroItem (named : Bool) (ts : List Token) : Except DeclarationError (List Token) := do
  let (_, rest) ← readPath ts
  let rest ← readMark "!" rest
  let group :=
    if named && (beginsWithIdentifier rest || beginsWithWord "try" rest) then rest.drop 1 else rest
  let rest ← readMacroGroup group
  if beginsWithGroup .brace group then .ok rest else readMark ";" rest

/-- Reads the declaration of a macro behind its keyword. -/
def readMacroDeclaration (ts : List Token) : Except DeclarationError (List Token) := do
  let rest ← passIdentifier ts
  let body := if beginsWithGroup .paren rest then rest.drop 1 else rest
  if beginsWithGroup .brace body then .ok (body.drop 1)
  else
    refuse ((if beginsWithGroup .paren rest then [] else [Delimiter.paren.name]) ++
      [Delimiter.brace.name]) body

/-- Reads the declaration of an external library behind its keywords. -/
def readExternLibrary (ts : List Token) : Except DeclarationError (List Token) := do
  let rest ← readBoundName ts
  let rest ←
    if !beginsWithWord "as" rest then .ok rest
    else if beginsWithWord "_" (rest.drop 1) then .ok (rest.drop 2)
    else passIdentifier (rest.drop 1)
  readMark ";" rest

/-! ### Parameters and what they belong to -/

/-- The state of a list of parameters that is read. -/
inductive ParameterState where
  | start | afterReceiver | afterOther | closed
deriving DecidableEq

/-- Reads the end of a list of parameters that may go on for any number of them. -/
def readOpenEnd (r : Remainder) : Except DeclarationError (ParameterState × Remainder) :=
  let rest := r.tokens.drop 3
  if rest.isEmpty then .ok (.closed, r.behind rest)
  else do
    let rest ← readMark "," rest
    .ok (.closed, r.behind rest)

/-- Reads the comma behind a parameter, which may be missing at the end. -/
def readParameterEnd (state : ParameterState) (r : Remainder) :
    Except DeclarationError (ParameterState × Remainder) :=
  withNote state (readSeparated "," List.isEmpty .ok r)

/-- What an associated item belongs to. -/
inductive Owner where
  | trait | implementation | interface
deriving DecidableEq

/-- What an associated item may begin with behind its visibility. -/
def Owner.starts : Owner → List String
  | .trait => ["fn", "const", "type"].map tickedText
  | .implementation => ["default", "fn", "const", "type"].map tickedText
  | .interface => ["fn", "static", "type"].map tickedText

/-- What the name of an associated constant may begin with.  In a trait the keyword may belong to a
function, whose keywords count as well. -/
def Owner.constantStarts : Owner → List String
  | .trait => ["identifier"] ++ ["_", "async", "unsafe", "extern", "fn"].map tickedText
  | _ => ["identifier", tickedText "_"]

/-- The refusal of a function without a body. -/
def Owner.refuseBody {α : Type} (owner : Owner) (ts : List Token) : Except DeclarationError α :=
  match owner with
  | .trait => refuse [Delimiter.brace.name, tickedText ";"] ts
  | .implementation => .error (.expectedGroup .brace ts.isEmpty)
  | .interface => .error (.expectedMark ";")

namespace Readers

variable (rd : Readers)

/-! ### Generic parameters and conditions -/

/-- Reads a generic parameter: a lifetime, a type or a constant. -/
def readGenericParameter (r : Remainder) : Passing := do
  let r ← rd.readAttributes false r
  let ts := r.tokens
  let next := ts.drop 1
  match afterLabel? ts with
  | some rest =>
    if beginsWith ":" rest then readSeries "+" endsArgument passLifetime (r.behind (rest.drop 1))
    else .ok (r.behind rest)
  | none =>
    if beginsWithIdentifier ts then do
      let r ←
        if beginsWith ":" next then
          readSeries "+" (fun ts => endsArgument ts || beginsWith "=" ts) rd.passBound
            (r.behind (next.drop 1))
        else .ok (r.behind next)
      if beginsWith "=" r.tokens then rd.type true (r.behind (r.tokens.drop 1)) else .ok r
    else if beginsWithWord "const" ts then do
      let rest ← passIdentifier next
      let rest ← readMark ":" rest
      let r ← rd.type true (r.behind rest)
      if beginsWith "=" r.tokens then rd.readConstant (r.behind (r.tokens.drop 1)) else .ok r
    else if beginsWithWord "_" ts then .ok (r.behind next)
    else refuse ["lifetime", "identifier", tickedText "const"] ts

/-- Reads the generic parameters of an item, if there are any. -/
def readGenericParameters (r : Remainder) : Passing :=
  if beginsWith "<" r.tokens then readAngled rd.readGenericParameter r else .ok r

/-- Reads a condition on a lifetime or on a type. -/
def readCondition (r : Remainder) : Passing := do
  let lifetime? := (afterLabel? r.tokens).filter (beginsWith ":")
  match lifetime? with
  | some rest => readSeries "+" endsCondition passLifetime (r.behind (rest.drop 1))
  | none => do
    let r ← rd.readLifetimes r
    let r ← rd.type true r
    let rest ← readMark ":" r.tokens
    readSeries "+" endsCondition rd.passBound (r.behind rest)

/-- Reads the conditions of an item, if there are any. -/
def readConditions (r : Remainder) : Passing :=
  if beginsWithWord "where" r.tokens then
    readSeries "," endsCondition rd.readCondition (r.behind (r.tokens.drop 1))
  else .ok r

/-! ### Functions -/

/-- Reads a parameter of a function; a receiver is the first one. -/
def readFunctionParameter (s : ParameterState × Remainder) :
    Except DeclarationError (ParameterState × Remainder) := do
  let r ← rd.readAttributes false s.2
  let ts := r.tokens
  if beginsWith "..." ts then readOpenEnd r
  else
    match afterReceiver? ts with
    | some rest => do
      let r ←
        if beginsWith ":" rest && !beginsWith "&" ts then rd.type true (r.behind (rest.drop 1))
        else .ok (r.behind rest)
      if s.1 = .start then readParameterEnd .afterReceiver r
      else .error (.unexpectedReceiver (s.1 == .afterReceiver))
    | none =>
      let state := if s.1 = .start then .afterOther else s.1
      -- a parameter may be a type alone if it has generic arguments
      if beginsWithIdentifier ts && beginsWith "<" (ts.drop 1) then do
        let r ← rd.type true r
        readParameterEnd state r
      else do
        let (_, r) ← rd.pattern r
        let rest ← readMark ":" r.tokens
        if beginsWith "..." rest then readOpenEnd (r.behind rest)
        else do
          let r ← rd.type true (r.behind rest)
          readParameterEnd state r

/-- Reads the parameters of a function inside their parentheses. -/
def readFunctionParameters (r : Remainder) : Passing :=
  withoutNote (stepWhile (fun s => s.1 != .closed && !s.2.tokens.isEmpty) rd.readFunctionParameter
    r.tokens (.start, r))

/-- Reads a function up to its body. -/
def readSignature (allowsSafe : Bool) (r : Remainder) : Passing := do
  let rest ← readWord "fn" (behindQualifiers allowsSafe r.tokens)
  let rest ← passIdentifier rest
  let r ← rd.readGenericParameters (r.behind rest)
  let (parameters, rest) ← readGroup .paren r.tokens
  let inner ← rd.readFunctionParameters (r.inside parameters)
  let r ← rd.readResult true (inner.leave .paren rest)
  rd.readConditions r

/-- Reads a function, whose body may be left out. -/
def readFunction (owner : Owner) (r : Remainder) : Passing := do
  let r ← rd.readSignature (owner == .interface) r
  if beginsWith ";" r.tokens then .ok (r.behind (r.tokens.drop 1))
  else if beginsWithGroup .brace r.tokens then rd.readBlock true r
  else owner.refuseBody r.tokens

/-! ### Constants and types -/

/-- Reads the value behind an equals sign, if there is one. -/
def readOptionalValue (r : Remainder) : Passing :=
  if beginsWith "=" r.tokens then rd.readExpression true (r.behind (r.tokens.drop 1)) else .ok r

/-- Reads a constant behind its keyword. -/
def readConstantItem (starts : List String) (r : Remainder) : Passing := do
  let rest ← readNameOrBlank starts r.tokens
  let r ← rd.readGenericParameters (r.behind rest)
  let rest ← readMark ":" r.tokens
  let r ← rd.type true (r.behind rest)
  let r ← rd.readOptionalValue r
  let r ← rd.readConditions r
  let rest ← readMark ";" r.tokens
  .ok (r.behind rest)

/-- Reads a variable behind its keyword.  Its value may be left out, and its type as well unless it is
foreign. -/
def readStatic (isForeign : Bool) (r : Remainder) : Passing := do
  let rest ← passIdentifier (skipWord "mut" r.tokens)
  let r ←
    if beginsWith "=" rest && !isForeign then .ok (r.behind rest)
    else do
      let rest ← readMark ":" rest
      rd.type true (r.behind rest)
  let r ←
    if isForeign || beginsWith ";" r.tokens then rd.readOptionalValue r
    else do
      let rest ← readMark "=" r.tokens
      rd.readExpression true (r.behind rest)
  let rest ← readMark ";" r.tokens
  .ok (r.behind rest)

/-- Reads a type behind its keyword.  The conditions stand in front of the equals sign, behind the
type, or in either place. -/
def readTypeItem (before behind : Bool) (r : Remainder) : Passing := do
  let rest ← passIdentifier r.tokens
  let r ← rd.readGenericParameters (r.behind rest)
  let r ←
    if beginsWith ":" r.tokens then
      readListed "+"
        (fun ts => beginsWithWord "where" ts || beginsWith "=" ts || beginsWith ";" ts) rd.passBound
        (r.behind (r.tokens.drop 1))
    else .ok r
  let r ← if before then rd.readConditions r else .ok r
  let r ← if beginsWith "=" r.tokens then rd.type true (r.behind (r.tokens.drop 1)) else .ok r
  let r ← if behind then rd.readConditions r else .ok r
  let rest ← readMark ";" r.tokens
  .ok (r.behind rest)

/-! ### Structures -/

/-- Reads a field, with its name in braces and without in parentheses. -/
def readFieldType (named : Bool) (r : Remainder) : Passing := do
  let r ← rd.readAttributes false r
  let (_, r) ← readVisibility r
  if named then do
    let rest ←
      if beginsWithWord "_" r.tokens then .ok (r.tokens.drop 1) else passIdentifier r.tokens
    let rest ← readMark ":" rest
    rd.type true (r.behind rest)
  else rd.type true r

/-- Reads the fields in braces or in parentheses. -/
def readFieldTypes (d : Delimiter) (r : Remainder) : Passing := do
  let (body, rest) ← readGroup d r.tokens
  let inner ← readListed "," List.isEmpty (rd.readFieldType (d == .brace)) (r.inside body)
  .ok (inner.leave d rest)

/-- Reads a structure behind its keyword. -/
def readStructure (r : Remainder) : Passing := do
  let rest ← passIdentifier r.tokens
  let r ← rd.readGenericParameters (r.behind rest)
  let isTuple := beginsWithGroup .paren r.tokens
  let r ← if isTuple then rd.readFieldTypes .paren r else .ok r
  let hasConditions := beginsWithWord "where" r.tokens
  let r ← rd.readConditions r
  if beginsWith ";" r.tokens then .ok (r.behind (r.tokens.drop 1))
  else if beginsWithGroup .brace r.tokens && !isTuple then rd.readFieldTypes .brace r
  else
    refuse ((if hasConditions then [] else [tickedText "where"]) ++
      (if hasConditions || isTuple then [] else [Delimiter.paren.name]) ++
      (if isTuple then [] else [Delimiter.brace.name]) ++ [tickedText ";"]) r.tokens

/-- Reads a variant of an enumeration. -/
def readVariant (r : Remainder) : Passing := do
  let r ← rd.readAttributes false r
  let (_, r) ← readVisibility r
  let rest ← passIdentifier r.tokens
  let r := r.behind rest
  let r ←
    if beginsWithGroup .brace rest then rd.readFieldTypes .brace r
    else if beginsWithGroup .paren rest then rd.readFieldTypes .paren r
    else .ok r
  rd.readOptionalValue r

/-- Reads an enumeration behind its keyword. -/
def readEnumeration (r : Remainder) : Passing := do
  let rest ← passIdentifier r.tokens
  let r ← rd.readGenericParameters (r.behind rest)
  let r ← rd.readConditions r
  let (body, rest) ← readGroup .brace r.tokens
  let inner ← readListed "," List.isEmpty rd.readVariant (r.inside body)
  .ok (inner.leave .brace rest)

/-- Reads a union behind its keyword. -/
def readUnion (r : Remainder) : Passing := do
  let rest ← passIdentifier r.tokens
  let r ← rd.readGenericParameters (r.behind rest)
  let r ← rd.readConditions r
  rd.readFieldTypes .brace r

/-! ### Groups of items -/

/-- Reads an associated item. -/
def readAssociated (owner : Owner) (r : Remainder) : Passing := do
  let r ← rd.readAttributes false r
  let (visibility, r) ← readVisibility r
  let isDefault := owner != .interface && beginsWithWord "default" r.tokens &&
    !(owner == .implementation && beginsWith "!" (r.tokens.drop 1))
  let r := if isDefault then r.behind (r.tokens.drop 1) else r
  let ts := r.tokens
  let next := r.behind (ts.drop 1)
  let isMarkedStatic := ["unsafe", "safe"].any (beginsWithWord · ts) &&
    beginsWithWord "static" next.tokens
  if beginsWithFunction (owner == .interface) ts then rd.readFunction owner r
  else if owner == .interface && beginsWithWord "static" ts then rd.readStatic true next
  else if owner == .interface && isMarkedStatic then rd.readStatic true (r.behind (ts.drop 2))
  else if owner != .interface && beginsWithWord "const" ts then
    rd.readConstantItem owner.constantStarts next
  else if beginsWithWord "type" ts then rd.readTypeItem (owner == .interface) true next
  else if visibility == .inherited && !isDefault && beginsWithPlainPath ts then do
    let rest ← readMacroItem false ts
    .ok (r.behind rest)
  else
    refuse ((if isDefault then owner.starts.erase (tickedText "default") else owner.starts) ++
      (if visibility == .inherited && !isDefault then plainPathStarts else [])) ts

/-- Reads the bounds of a trait, its conditions and its items. -/
def readTraitBody (r : Remainder) : Passing := do
  let r ←
    if beginsWith ":" r.tokens then
      readListed "+" (fun ts => beginsWithWord "where" ts || beginsWithGroup .brace ts) rd.passBound
        (r.behind (r.tokens.drop 1))
    else .ok r
  let r ← rd.readConditions r
  rd.readBraced true (rd.readAssociated .trait) r

/-- Reads another name for bounds behind the equals sign. -/
def readTraitAlias (r : Remainder) : Passing := do
  let r ← readListed "+" (fun ts => beginsWithWord "where" ts || beginsWith ";" ts) rd.passBound r
  let r ← rd.readConditions r
  let rest ← readMark ";" r.tokens
  .ok (r.behind rest)

/-- Reads a trait; `isMarked` says that keywords stand in front of its own. -/
def readTraitItem (isMarked : Bool) (r : Remainder) : Passing := do
  let rest ← readWord "trait" (skipWord "auto" (skipWord "unsafe" r.tokens))
  let rest ← passIdentifier rest
  let r ← rd.readGenericParameters (r.behind rest)
  let ts := r.tokens
  if isMarked || beginsWithGroup .brace ts || beginsWith ":" ts || beginsWithWord "where" ts then
    rd.readTraitBody r
  else if beginsWith "=" ts then rd.readTraitAlias (r.behind (ts.drop 1))
  else refuse (Delimiter.brace.name :: [":", "where", "="].map tickedText) ts

/-- Reads an implementation. -/
def readImplementation (r : Remainder) : Passing := do
  let rest ← readWord "impl" (skipWord "unsafe" (skipWord "default" r.tokens))
  let r ←
    if beginsWithParameterList rest then rd.readGenericParameters (r.behind rest)
    else .ok (r.behind rest)
  let unsure := skipMark "?" r.tokens
  let ts := if beginsWithWord "const" unsure then unsure.drop 1 else r.tokens
  let isNegative := beginsWith "!" ts && !beginsWithGroup .brace (ts.drop 1)
  let r ← rd.type true (r.behind (if isNegative then ts.drop 1 else ts))
  let r ←
    if beginsWithWord "for" r.tokens then rd.type true (r.behind (r.tokens.drop 1)) else .ok r
  let r ← rd.readConditions r
  rd.readBraced true (rd.readAssociated .implementation) r

/-- Reads a foreign interface. -/
def readInterface (r : Remainder) : Passing :=
  rd.readBraced true (rd.readAssociated .interface)
    (r.behind (skipExtern (skipWord "unsafe" r.tokens)))

/-- Reads a module behind its keyword. -/
def readModule (r : Remainder) : Passing := do
  let rest ←
    if beginsWithWord "try" r.tokens then .ok (r.tokens.drop 1) else passIdentifier r.tokens
  if beginsWith ";" rest then .ok (r.behind (rest.drop 1))
  else if beginsWithGroup .brace rest then rd.readBraced true rd.item (r.behind rest)
  else refuse [tickedText ";", Delimiter.brace.name] rest

/-! ### Uses -/

/-- Reads the trees in the braces of a use. -/
def readUseTrees (allowsRoot : Bool) (r : Remainder) : Passing :=
  readListed "," List.isEmpty
    (fun r =>
      let isRooted := allowsRoot && beginsWith "::" r.tokens
      rd.useTree (allowsRoot && !isRooted)
        (if isRooted then r.behind (r.tokens.drop 2) else r)) r

/-- Reads what a path is used for: a name, perhaps another one for it, all names, or several trees. -/
def readUseTree (allowsRoot : Bool) (r : Remainder) : Passing :=
  let ts := r.tokens
  let next := ts.drop 1
  if beginsWithIdentifier ts || ["self", "super", "crate", "try"].any (beginsWithWord · ts) then
    if beginsWith "::" next then rd.useTree false (r.behind (next.drop 2))
    else if beginsWithWord "as" next then do
      let rest ← readNameOrBlank ["identifier", "underscore"] (next.drop 1)
      .ok (r.behind rest)
    else .ok (r.behind next)
  else if beginsWith "*" ts then .ok (r.behind next)
  else
    match ts with
    | .group .brace body :: rest => do
      let inner ← rd.readUseTrees allowsRoot (r.inside body)
      .ok (inner.leave .brace rest)
    | ts => refuse useStarts ts

/-- Reads a use behind its keyword. -/
def readUse (r : Remainder) : Passing := do
  let isRooted := beginsWith "::" r.tokens
  let r ← rd.readUseTree (!isRooted) (r.behind (skipMark "::" r.tokens))
  let rest ← readMark ";" r.tokens
  .ok (r.behind rest)

/-! ### Items -/

/-- Reads an item that begins with the keyword `extern`, and that is no function. -/
def readExtern (r : Remainder) : Passing :=
  let next := r.tokens.drop 1
  let named := skipExtern r.tokens
  if beginsWithWord "crate" next then do
    let rest ← readExternLibrary (next.drop 1)
    .ok (r.behind rest)
  else if beginsWithGroup .brace named then rd.readInterface r
  else if named.length < next.length then refuse [Delimiter.brace.name] named
  else refuse [tickedText "crate", Delimiter.brace.name, "string literal"] next

/-- Reads an item that begins with the keyword `unsafe`, and that is no function. -/
def readUnsafe (r : Remainder) : Passing :=
  let next := r.tokens.drop 1
  if beginsWithWord "trait" next || beginsWithAutoTrait next then rd.readTraitItem true r
  else if beginsWithWord "impl" next then rd.readImplementation r
  else if beginsWithWord "extern" next then rd.readInterface r
  else if beginsWithWord "mod" next then rd.readModule (r.behind (next.drop 1))
  else refuse (["trait", "auto", "impl", "extern", "mod"].map tickedText) next

/-- Reads an item with the attributes in front of it. -/
def readItem (r : Remainder) : Passing := do
  let r ← rd.readAttributes false r
  let (visibility, r) ← readVisibility r
  let ts := r.tokens
  let next := r.behind (ts.drop 1)
  if beginsWithFunction false ts then rd.readFunction .implementation r
  else if beginsWithWord "extern" ts then rd.readExtern r
  else if beginsWithWord "use" ts then rd.readUse next
  else if beginsWithWord "static" ts then rd.readStatic false next
  else if beginsWithWord "const" ts then
    rd.readConstantItem ["identifier", tickedText "_"] next
  else if beginsWithWord "unsafe" ts then rd.readUnsafe r
  else if beginsWithWord "mod" ts then rd.readModule next
  else if beginsWithWord "type" ts then rd.readTypeItem true false next
  else if beginsWithWord "struct" ts then rd.readStructure next
  else if beginsWithWord "enum" ts then rd.readEnumeration next
  else if beginsWithWord "union" ts && beginsWithIdentifier next.tokens then rd.readUnion next
  else if beginsWithWord "trait" ts then rd.readTraitItem false r
  else if beginsWithAutoTrait ts then rd.readTraitItem true r
  else if beginsWithWord "impl" ts ||
      (beginsWithWord "default" ts && !beginsWith "!" next.tokens) then rd.readImplementation r
  else if beginsWithWord "macro" ts then do
    let rest ← readMacroDeclaration next.tokens
    .ok (r.behind rest)
  else if visibility == .inherited && beginsWithPlainPath ts then do
    let rest ← readMacroItem true ts
    .ok (r.behind rest)
  else refuse (itemStarts ++ if visibility == .inherited then plainPathStarts else []) ts

end Readers

end RouteTemplate.Typed
