import RouteTemplate.Typed.Pattern

/-!
# RouteTemplate.Typed.Expression — expressions

An expression is built from atoms, by what is applied to them and by operators between them.  An
expression that its block ends is read elsewhere.
-/

namespace RouteTemplate.Typed

open DeclarationError (tickedText)

/-- Whether tokens begin with an expression, as far as the first of them tells. -/
def beginsWithExpression (ts : List Token) : Bool :=
  (beginsWithAnyWord ts && !beginsWithWord "as" ts) || beginsWithLiteral ts ||
    [Delimiter.paren, .bracket, .brace].any (beginsWithGroup · ts) ||
    (beginsWith "!" ts && !beginsWith "!=" ts) ||
    (beginsWith "-" ts && !beginsWith "-=" ts && !beginsWith "->" ts) ||
    (beginsWith "*" ts && !beginsWith "*=" ts) || (beginsWith "|" ts && !beginsWith "|=" ts) ||
    (beginsWith "&" ts && !beginsWith "&=" ts) || beginsWith ".." ts ||
    (beginsWith "<" ts && !beginsWith "<=" ts && !beginsWith "<<=" ts) || beginsWith "::" ts ||
    (afterLabel? ts).isSome || beginsWith "#" ts

/-- Whether tokens begin with a list of generic parameters and not with a type in angle brackets. -/
def beginsWithParameterList (ts : List Token) : Bool :=
  let inner := ts.drop 1
  let behindName? := if beginsWithIdentifier inner then some (inner.drop 1) else afterLabel? inner
  beginsWith "<" ts && (beginsWith ">" inner || beginsWith "#" inner ||
    beginsWithWord "const" inner || behindName?.any fun rest =>
      [">", ",", "="].any (beginsWith · rest) || (beginsWith ":" rest && !beginsWith "::" rest))

/-- Whether a closure begins here. -/
def beginsWithClosure (ts : List Token) : Bool :=
  let next := ts.drop 1
  beginsWith "|" ts || beginsWithWord "move" ts || beginsWithWord "static" ts ||
    (beginsWithWord "for" ts && beginsWithParameterList next) ||
    (beginsWithWord "const" ts && !beginsWithGroup .brace next) ||
    (beginsWithWord "async" ts && (beginsWith "|" next || beginsWithWord "move" next))

/-- Whether a block begins here whose value is waited for. -/
def beginsWithAsyncBlock (ts : List Token) : Bool :=
  beginsWithWord "async" ts && beginsWithGroup .brace (skipWord "move" (ts.drop 1))

/-- Whether an expression begins here that its block ends. -/
def beginsWithConstruct (ts : List Token) : Bool :=
  let next := ts.drop 1
  ["if", "while", "loop", "match", "unsafe"].any (beginsWithWord · ts) ||
    (beginsWithWord "for" ts && !beginsWithParameterList next) ||
    (["try", "const"].any (beginsWithWord · ts) && beginsWithGroup .brace next) ||
    beginsWithGroup .brace ts || (afterLabel? ts).isSome

/-- Whether a member or a question mark is applied to what stands in front. -/
def beginsWithMember (ts : List Token) : Bool :=
  (beginsWith "." ts && !beginsWith ".." ts) || beginsWith "?" ts

/-- Whether something is applied to what stands in front; of a range, no member is taken. -/
def beginsWithApplication (shape : Shape) (ts : List Token) : Bool :=
  [Delimiter.paren, .bracket].any (beginsWithGroup · ts) || (shape != .range && beginsWithMember ts)

namespace Readers

variable (rd : Readers)

/-! ### Operators -/

/-- Reads the right side of an operator that binds as tightly as `p`. -/
def readOperand (structs : Bool) (p : Precedence) (r : Remainder) : Passing := do
  let (shape, r) ← rd.unary structs r
  withoutNote (rd.tighter structs p shape r)

/-- Reads the operators behind a right side that bind more tightly than `p`. -/
def readTighter (structs : Bool) (p : Precedence) (shape : Shape) (r : Remainder) : Passage :=
  let next := nextPrecedence r.tokens
  if p.level < next.level || (next == p && p == .assign) then do
    let (shape, r') ← rd.operators structs next shape r
    if r'.tokens.length = r.tokens.length then .ok (shape, r')
    else rd.tighter structs p shape r'
  else .ok (shape, r)

/-- Reads the sign and the end of a range. -/
def readRange (structs : Bool) (r : Remainder) : Passing := do
  let (closed, rest) ← readRangeSign r.tokens
  if !closed && isOpenRange structs rest then .ok (r.behind rest)
  else rd.readOperand structs .range (r.behind rest)

/-- Reads a cast, which nothing is applied to. -/
def readCast (r : Remainder) : Passing := do
  let r ← rd.type false r
  match application? r.tokens with
  | some a => .error (.appliedCast a)
  | none => .ok r

/-- Reads the operators behind an expression that bind as tightly as `base`, with what they join. -/
def readOperators (structs : Bool) (base : Precedence) (shape : Shape) (r : Remainder) : Passage :=
  if shape = .range then .ok (shape, r)
  else
    match binary? r.tokens with
    | some (p, rest) =>
      if p.level < base.level then .ok (shape, r)
      else if p = .compare ∧ shape = .comparison then .error .chainedComparison
      else do
        let r ← rd.readOperand structs p (r.behind rest)
        rd.operators structs base (if p = .compare then .comparison else .plain) r
    | none =>
      let next := r.behind (r.tokens.drop 1)
      if base.level ≤ Precedence.assign.level && beginsWithAssign r.tokens then do
        let r ← rd.readOperand structs .assign next
        rd.operators structs base .plain r
      else if base.level ≤ Precedence.range.level && beginsWith ".." r.tokens then do
        let r ← rd.readRange structs r
        rd.operators structs base .range r
      else if base.level ≤ Precedence.cast.level && beginsWithWord "as" r.tokens then do
        let r ← rd.readCast next
        rd.operators structs base .plain r
      else .ok (shape, r)

/-! ### Applications -/

/-- Reads expressions with commas between them up to the end of a group. -/
def readExpressions (r : Remainder) : Passing := readListed "," List.isEmpty (rd.readExpression true) r

/-- Reads the arguments of a call. -/
def readCall (r : Remainder) : Passing := do
  let (arguments, rest) ← readGroup .paren r.tokens
  let inner ← rd.readExpressions (r.inside arguments)
  .ok (inner.leave .paren rest)

/-- Reads a member behind its point: a number, a field, or a method with its arguments. -/
def readMember (r : Remainder) : Passing :=
  let ts := r.tokens
  let rest := ts.drop 1
  if beginsWithNumber ts || beginsWithWord "await" ts then .ok (r.behind rest)
  else if !beginsWithIdentifier ts then refuse memberStarts ts
  else if beginsWith "::" rest then do
    let r ← readAngled rd.readGeneric (r.behind (rest.drop 2))
    rd.readCall r
  else if beginsWithGroup .paren rest then rd.readCall (r.behind rest)
  else .ok (r.behind rest)

/-- Reads a call, a member, an index or a question mark behind an expression. -/
def readApplication (r : Remainder) : Passing :=
  let next := r.behind (r.tokens.drop 1)
  match r.tokens with
  | .group .bracket index :: rest => do
    let inner ← rd.readExpression true (r.inside index)
    .ok (inner.leave .bracket rest)
  | ts =>
    if beginsWithGroup .paren ts then rd.readCall r
    else if beginsWith "?" ts then .ok next
    else rd.readMember next

/-- Reads all that is applied to an expression. -/
def readApplications (shape : Shape) (r : Remainder) : Passage :=
  stepWhile (fun s => beginsWithApplication s.1 s.2.tokens)
    (fun s => withNote .plain (rd.readApplication s.2)) r.tokens (shape, r)

/-! ### Atoms -/

/-- Reads a field of a structure. -/
def readField (r : Remainder) : Passing := do
  let r ← rd.readAttributes false r
  let ts := r.tokens
  let rest := ts.drop 1
  if !beginsWithIdentifier ts && !beginsWithNumber ts then refuse memberStarts ts
  else if beginsWithNumber ts || beginsWith ":" rest then do
    let rest ← readMark ":" rest
    rd.readExpression true (r.behind rest)
  else .ok (r.behind rest)

/-- Reads the fields of a structure inside its braces; the others may be taken from an
expression. -/
def readFields (r : Remainder) : Passing := do
  let r ← readUpTo (beginsWith "..") rd.readField r
  let rest := r.tokens.drop 2
  if beginsWith ".." r.tokens && !rest.isEmpty then rd.readExpression true (r.behind rest)
  else .ok (r.behind rest)

/-- Reads a path with what belongs to it: the group of a macro or the fields of a structure. -/
def readPathExpression (structs : Bool) (r : Remainder) : Passing := do
  let (isPlain, r) ← rd.readTypedPath false r
  if callsMacro isPlain r.tokens then
    let rest ← readMacroGroup (r.tokens.drop 1)
    .ok (r.behind rest)
  else
    match r.tokens with
    | .group .brace body :: rest =>
      if structs then do
        let inner ← rd.readFields (r.inside body)
        .ok (inner.leave .brace rest)
      else .ok r
    | _ => .ok r

/-- Reads what stands in parentheses or in square brackets: an expression, several with commas, or
one with the number of its copies. -/
def readBracketed (d : Delimiter) (inner : Remainder) : Passing :=
  if inner.tokens.isEmpty then .ok inner
  else do
    let r ← rd.readExpression true inner
    if r.tokens.isEmpty then .ok r
    else if d = .paren || beginsWith "," r.tokens then do
      let rest ← readMark "," r.tokens
      rd.readExpressions (r.behind rest)
    else if beginsWith ";" r.tokens then rd.readExpression true (r.behind (r.tokens.drop 1))
    else refuse ([",", ";"].map tickedText) r.tokens

/-- Reads a parameter of a closure. -/
def readParameter (r : Remainder) : Passing := do
  let r ← rd.readAttributes false r
  let (_, r) ← rd.pattern r
  if beginsWith ":" r.tokens then rd.type true (r.behind (r.tokens.drop 1)) else .ok r

/-- Reads a closure; one that names the type of its result has a block. -/
def readClosure (structs : Bool) (r : Remainder) : Passing := do
  let r ← rd.readLifetimes r
  let rest ← readMark "|" (["const", "static", "async", "move"].foldl (fun ts k => skipWord k ts)
    r.tokens)
  let r ← readListed "," (beginsWith "|") rd.readParameter (r.behind rest)
  let rest := r.tokens.drop 1
  if beginsWith "->" rest then do
    let r ← rd.type true (r.behind (rest.drop 2))
    rd.readBlock false r
  else rd.readExpression structs (r.behind rest)

/-- Reads what leaves a block or a function, with the value it leaves, if there is one. -/
def readJump (structs : Bool) (r : Remainder) : Passing :=
  let ts := r.tokens
  let next := ts.drop 1
  if beginsWithWord "break" ts && (afterLabel? next).any (beginsWith ":") then do
    let _ ← rd.readExpression true (r.behind next)
    .error .expectedParentheses
  else
    let rest := if beginsWithWord "break" ts then skipLabel next else next
    let isBare := !beginsWithExpression rest ||
      (!structs && beginsWithWord "break" ts && beginsWithGroup .brace rest)
    if isBare && !beginsWithWord "become" ts then .ok (r.behind rest)
    else rd.readExpression structs (r.behind rest)

/-- Reads the binding of a condition. -/
def readLet (structs : Bool) (r : Remainder) : Passing := do
  let (_, r) ← rd.readAlternatives r
  let rest ← readMark "=" r.tokens
  let (shape, r) ← rd.unary structs (r.behind rest)
  withoutNote (rd.operators structs .compare shape r)

/-- Reads what operators and applications are built from. -/
def readAtom (structs : Bool) (r : Remainder) : Passage :=
  let ts := r.tokens
  let next := ts.drop 1
  if beginsWithLiteral ts || beginsWithWord "_" ts then .ok (.plain, r.behind next)
  else if beginsWithAsyncBlock ts then
    withNote .plain (rd.readBlock false (r.behind (skipWord "move" next)))
  else if beginsWithClosure ts then withNote .plain (rd.readClosure structs r)
  else if beginsWithPath ts ||
      (beginsWithWord "try" ts && (beginsWith "!" next || beginsWith "::" next)) then
    withNote .plain (rd.readPathExpression structs r)
  else if beginsWithConstruct ts then withNote .plain (rd.construct r)
  else if ["break", "return", "yield", "become"].any (beginsWithWord · ts) then
    withNote .plain (rd.readJump structs r)
  else if beginsWithWord "continue" ts then .ok (.plain, r.behind (skipLabel next))
  else if beginsWithWord "let" ts then withNote .plain (rd.readLet structs (r.behind next))
  else if beginsWith ".." ts then withNote .range (rd.readRange structs r)
  else
    match ts with
    | .group d body :: rest => do
      let inner ← rd.readBracketed d (r.inside body)
      .ok (.plain, inner.leave d rest)
    | ts => .error (.expectedExpression ts.isEmpty)

/-- Reads an expression without operators between expressions. -/
def readUnary (structs : Bool) (r : Remainder) : Passage := do
  let r ← rd.readAttributes false r
  let ts := r.tokens
  let next := ts.drop 1
  if beginsWith "&" ts then
    let isRaw := beginsWithWord "raw" next &&
      (beginsWithWord "mut" (next.drop 1) || beginsWithWord "const" (next.drop 1))
    let operand := if isRaw then next.drop 2 else skipWord "mut" next
    withNote .plain (withoutNote (rd.unary structs (r.behind operand)))
  else if ["*", "!", "-"].any (beginsWith · ts) then
    withNote .plain (withoutNote (rd.unary structs (r.behind next)))
  else
    let (shape, r) ← rd.readAtom structs r
    rd.readApplications shape r

end Readers

end RouteTemplate.Typed
