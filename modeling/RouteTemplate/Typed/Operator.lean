import RouteTemplate.Typed.Reading

/-!
# RouteTemplate.Typed.Operator — operators of expressions

Operators are joined by how tightly they bind.  A comparison does not follow another, nothing follows
a range, and a cast is not applied further.
-/

namespace RouteTemplate.Typed

/-- What an expression is to an operator behind it. -/
inductive Shape where
  | plain | comparison | range
deriving DecidableEq

/-- What a reader of expressions gives that keeps their shape. -/
abbrev Passage := Except DeclarationError (Shape × Remainder)

/-- How tightly an operator binds. -/
inductive Precedence where
  | least | assign | range | or | and | compare | bitOr | bitXor | bitAnd | shift | sum | product
  | cast
deriving DecidableEq

/-- The place of a precedence, from loose to tight. -/
def Precedence.level : Precedence → Nat
  | .least => 0
  | .assign => 1
  | .range => 2
  | .or => 3
  | .and => 4
  | .compare => 5
  | .bitOr => 6
  | .bitXor => 7
  | .bitAnd => 8
  | .shift => 9
  | .sum => 10
  | .product => 11
  | .cast => 12

/-- Operators between two expressions; a longer one stands before those that it begins with. -/
def binaryOperators : List (Precedence × List String) :=
  [(.assign, ["+=", "-=", "*=", "/=", "%=", "^=", "&=", "|=", "<<=", ">>="]), (.and, ["&&"]),
    (.or, ["||"]), (.shift, ["<<", ">>"]), (.compare, ["==", "<=", "!=", ">="]),
    (.sum, ["+", "-"]), (.product, ["*", "/", "%"]), (.bitXor, ["^"]), (.bitAnd, ["&"]),
    (.bitOr, ["|"]), (.compare, ["<", ">"])]

/-- The operator at the front of tokens. -/
def binary? (ts : List Token) : Option (Precedence × List Token) :=
  binaryOperators.findSome? fun (p, marks) =>
    marks.findSome? fun mark => (afterMark? mark.toList ts).map fun rest => (p, rest)

/-- Whether tokens begin with the sign of an assignment. -/
def beginsWithAssign (ts : List Token) : Bool := beginsWith "=" ts && !beginsWith "=>" ts

/-- How tightly what comes next binds. -/
def nextPrecedence (ts : List Token) : Precedence :=
  match binary? ts with
  | some (p, _) => p
  | none =>
    if beginsWithAssign ts then .assign
    else if beginsWith ".." ts then .range
    else if beginsWithWord "as" ts then .cast
    else .least

/-- Reads the sign of a range and says whether the range includes its end. -/
def readRangeSign (ts : List Token) : Except DeclarationError (Bool × List Token) :=
  match afterMark? "..=".toList ts with
  | some rest => .ok (true, rest)
  | none =>
    if beginsWith "..." ts then .error (.expectedMark "..=")
    else do
      let rest ← readMark ".." ts
      .ok (false, rest)

/-- Marks behind which a range has no end. -/
def rangeStops : List String :=
  [",", ";", "?", "=", "+", "/", "%", "^", ">", "<=", "!=", "-=", "*=", "&=", "|=", "<<="]

/-- Whether a range that does not include its end has none. -/
def isOpenRange (structs : Bool) (ts : List Token) : Bool :=
  ts.isEmpty || rangeStops.any (beginsWith · ts) || (beginsWith "." ts && !beginsWith ".." ts) ||
    (!structs && beginsWithGroup .brace ts) || beginsWithWord "as" ts

/-- What is done to a cast behind it, which is refused. -/
def application? (ts : List Token) : Option String :=
  if beginsWith "." ts && !beginsWith ".." ts then
    let member := ts.drop 1
    if beginsWithWord "await" member then some (DeclarationError.tickedText ".await")
    else if beginsWithIdentifier member &&
        (beginsWithGroup .paren (member.drop 1) || beginsWith "::" (member.drop 1)) then
      some "a method call"
    else some "a field access"
  else if beginsWith "?" ts then some (DeclarationError.tickedText "?")
  else if beginsWithGroup .bracket ts then some "indexing"
  else if beginsWithGroup .paren ts then some "a function call"
  else none

end RouteTemplate.Typed
