import RouteTemplate.Typed.Item

/-!
# RouteTemplate.Typed.Block — blocks and what they end

A block holds statements.  Where a statement or an arm of a match begins with an expression that its
block ends, the expression goes no further than that block, unless a member is taken of it, and no
mark has to follow.  At the end the readers are tied to themselves, level by level.
-/

namespace RouteTemplate.Typed

open DeclarationError (tickedText)

/-- Whether a label may stand before tokens. -/
def canBeLabelled (ts : List Token) : Bool :=
  ["while", "for", "loop"].any (beginsWithWord · ts) || beginsWithGroup .brace ts

/-- Whether the last token that was read is a group in braces. -/
def endsWithBraces (before behind : List Token) : Bool :=
  beginsWithGroup .brace (before.drop (before.length - behind.length - 1))

/-- The tokens behind a macro whose group is in braces, if nothing is applied to it. -/
def behindBraceMacro? (ts : List Token) : Option (List Token) :=
  match readPath ts with
  | .ok (_, .sign '!' _ :: .group .brace _ :: rest) =>
    if beginsWithMember rest then none else some rest
  | _ => none

/-- Whether tokens begin with a macro that is an item by the name behind its exclamation mark. -/
def beginsWithNamedMacro (ts : List Token) : Bool :=
  match readPath ts with
  | .ok (_, .sign '!' _ :: rest) => beginsWithIdentifier rest || beginsWithWord "try" rest
  | _ => false

/-- Whether tokens behind the keyword `const` or `async` go on as a function. -/
def continuesFunction (ts : List Token) : Bool :=
  ["unsafe", "extern", "fn"].any (beginsWithWord · ts)

/-- Whether tokens behind the keyword `const` go on as a block or as a closure. -/
def continuesConstant (ts : List Token) : Bool :=
  beginsWithGroup .brace ts || beginsWith "|" ts ||
    ["static", "move"].any (beginsWithWord · ts) ||
    (beginsWithWord "async" ts && !continuesFunction (ts.drop 1))

/-- Whether a statement that begins with these tokens is an item. -/
def beginsWithItem (ts : List Token) : Bool :=
  let next := ts.drop 1
  ["pub", "extern", "use", "fn", "mod", "type", "struct", "enum", "trait", "impl", "macro"].any
      (beginsWithWord · ts) ||
    (beginsWithWord "crate" ts && !beginsWith "::" next) ||
    (beginsWithWord "static" ts && (beginsWithWord "mut" next || beginsWithIdentifier next)) ||
    (beginsWithWord "const" ts && !continuesConstant next) ||
    (beginsWithWord "unsafe" ts && !beginsWithGroup .brace next) ||
    (beginsWithWord "async" ts && continuesFunction next) ||
    (beginsWithWord "union" ts && beginsWithIdentifier next) || beginsWithAutoTrait ts ||
    (beginsWithWord "default" ts && ["unsafe", "impl"].any (beginsWithWord · next)) ||
    beginsWithNamedMacro ts

namespace Readers

variable (rd : Readers)

/-! ### Statements -/

/-- Reads an expression that goes no further than the block that ends it, and notes whether it ends
so. -/
def readBounded (r : Remainder) : Noting := do
  let r ← rd.readAttributes false r
  if beginsWithConstruct r.tokens then do
    let r ← rd.construct r
    if beginsWithMember r.tokens then do
      let (shape, r) ← rd.readApplications .plain r
      withNote false (withoutNote (rd.operators true .least shape r))
    else .ok (true, r)
  else withNote false (rd.readExpression true r)

/-- Reads the value that a name is bound to, and the block for the case that it does not match. -/
def readInitial (r : Remainder) : Passing := do
  let r' ← rd.readExpression true r
  if beginsWithWord "else" r'.tokens && !endsWithBraces r.tokens r'.tokens then
    rd.readBlock false (r'.behind (r'.tokens.drop 1))
  else .ok r'

/-- Reads a binding behind its keyword. -/
def readLocal (r : Remainder) : Passing := do
  let (_, r) ← rd.pattern r
  let r ←
    if beginsWith ":" r.tokens then rd.type true (r.behind (r.tokens.drop 1)) else .ok r
  let r ←
    if beginsWith "=" r.tokens then rd.readInitial (r.behind (r.tokens.drop 1)) else .ok r
  let rest ← readMark ";" r.tokens
  .ok (r.behind rest)

/-- Reads an expression as a statement. -/
def readExpressionStatement (r : Remainder) : Passing := do
  let (isBlock, r) ← rd.readBounded r
  if beginsWith ";" r.tokens then .ok (r.behind (r.tokens.drop 1))
  else if isBlock || r.tokens.isEmpty then .ok r
  else .error .expectedStatementEnd

/-- Reads a statement, or a semicolon that stands for none. -/
def readStatement (r : Remainder) : Passing :=
  if beginsWith ";" r.tokens then .ok (r.behind (r.tokens.drop 1))
  else do
    let r ← rd.readAttributes false r
    match behindBraceMacro? r.tokens with
    | some rest => .ok (r.behind (skipMark ";" rest))
    | none =>
      if beginsWithWord "let" r.tokens then rd.readLocal (r.behind (r.tokens.drop 1))
      else if beginsWithItem r.tokens then rd.readItem r
      else rd.readExpressionStatement r

/-! ### Expressions that a block ends -/

/-- Reads an arm of a match. -/
def readArm (r : Remainder) : Passing := do
  let r ← rd.readAttributes false r
  let (_, r) ← rd.readAlternatives r
  let r ←
    if beginsWithWord "if" r.tokens then rd.readExpression true (r.behind (r.tokens.drop 1))
    else .ok r
  let rest ← readMark "=>" r.tokens
  let (isBlock, r) ← rd.readBounded (r.behind rest)
  if isBlock || r.tokens.isEmpty then .ok (r.behind (skipMark "," r.tokens))
  else do
    let rest ← readMark "," r.tokens
    .ok (r.behind rest)

/-- Reads a choice behind its keyword. -/
def readChoice (r : Remainder) : Passing := do
  let r ← rd.readExpression false r
  let r ← rd.readBlock false r
  if beginsWithWord "else" r.tokens then
    let rest := r.tokens.drop 1
    if beginsWithWord "if" rest then rd.construct (r.behind rest)
    else if beginsWithGroup .brace rest then rd.readBlock false (r.behind rest)
    else refuse [tickedText "if", Delimiter.brace.name] rest
  else .ok r

/-- Reads an expression that its block ends, without a label. -/
def readUnlabelled (r : Remainder) : Passing :=
  let ts := r.tokens
  let next := r.behind (ts.drop 1)
  if beginsWithWord "if" ts then rd.readChoice next
  else if beginsWithWord "while" ts then do
    let r ← rd.readExpression false next
    rd.readBlock true r
  else if beginsWithWord "for" ts then do
    let (_, r) ← rd.readAlternatives next
    let rest ← readWord "in" r.tokens
    let r ← rd.readExpression false (r.behind rest)
    rd.readBlock true r
  else if beginsWithWord "match" ts then do
    let r ← rd.readExpression false next
    rd.readBraced true rd.readArm r
  else if beginsWithWord "try" ts then rd.readBlock false next
  else if ["loop", "unsafe", "const"].any (beginsWithWord · ts) then rd.readBlock true next
  else rd.readBlock true r

/-- Reads an expression that its block ends. -/
def readConstruct (r : Remainder) : Passing :=
  match afterLabel? r.tokens with
  | none => rd.readUnlabelled r
  | some rest => do
    let rest ← readMark ":" rest
    if canBeLabelled rest then rd.readUnlabelled (r.behind rest)
    else .error (.expectedLabelled rest.isEmpty)

/-! ### All readers -/

/-- The readers that call each other at most so deep. -/
def ofDepth : Nat → Readers
  | 0 => exhausted
  | n + 1 =>
    -- a level is written out, so that it is made only when a reader of it is called
    { unary := fun structs r => (ofDepth n).readUnary structs r
      operators := fun structs base shape r => (ofDepth n).readOperators structs base shape r
      tighter := fun structs p shape r => (ofDepth n).readTighter structs p shape r
      construct := fun r => (ofDepth n).readConstruct r
      type := fun several r => (ofDepth n).readType several r
      word := fun inType r => (ofDepth n).readPathWord inType r
      pattern := fun r => (ofDepth n).readPattern r
      statement := fun r => (ofDepth n).readStatement r
      item := fun r => (ofDepth n).readItem r
      useTree := fun allowsRoot r => (ofDepth n).readUseTree allowsRoot r }

end Readers

/-- Reads an expression to its end.  No reader calls another more than a few times before it reads a
token, and no token is shown by less than one character. -/
def passExpression (r : Remainder) : Passing :=
  (Readers.ofDepth (16 * ((tokensText r.tokens).length + 1))).readExpression true r

/-- Reads the attributes at the front of tokens. -/
def readAttributes (ts : List Token) : Except DeclarationError (List Attribute × Remainder) :=
  readAttributesOf passExpression false (.ofTokens ts)

end RouteTemplate.Typed
