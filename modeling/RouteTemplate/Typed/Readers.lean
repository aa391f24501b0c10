import RouteTemplate.Typed.Attribute
import RouteTemplate.Typed.Operator

/-!
# RouteTemplate.Typed.Readers — readers that call each other

An attribute may be set to an expression.  Nothing of it is kept, so an expression is only read
through, with the types, patterns and statements in it.  These hold each other, and so their readers
call each other: each is written over a record of those that close a circle.  What is left behind an
expression is for its reader to refuse.
-/

namespace RouteTemplate.Typed

/-- The readers through which the others call each other. -/
structure Readers where
  /-- Reads an expression without operators between expressions; the flag of this and of the next two
  says whether braces behind a path belong to it. -/
  unary : Bool → Remainder → Passage
  /-- Reads the operators behind an expression that bind as tightly as a base, with what they
  join. -/
  operators : Bool → Precedence → Shape → Remainder → Passage
  /-- Reads the operators behind a right side that bind more tightly than the one before it. -/
  tighter : Bool → Precedence → Shape → Remainder → Passage
  /-- Reads an expression that its block ends: a choice, a loop, or the block itself. -/
  construct : Remainder → Passing
  /-- Reads a type; the flag says whether bounds may be added to it. -/
  type : Bool → Remainder → Passing
  /-- Reads a word of a path with its generic arguments, and notes whether it has none.  In a type, as
  the flag says, the arguments follow the word at once, in an expression behind a mark. -/
  word : Bool → Remainder → Noting
  /-- Reads a pattern, and notes whether it is a range that lacks an end. -/
  pattern : Remainder → Noting
  /-- Reads a statement, or a semicolon that stands for none. -/
  statement : Remainder → Passing
  /-- Reads an item with the attributes in front of it. -/
  item : Remainder → Passing
  /-- Reads what a path is used for; the flag says whether the mark of a root may be in front. -/
  useTree : Bool → Remainder → Passing

namespace Readers

/-- The readers that have no depth left to read anything. -/
def exhausted : Readers where
  unary _ _ := .error (.expectedExpression false)
  operators _ _ _ _ := .error (.expectedExpression false)
  tighter _ _ _ _ := .error (.expectedExpression false)
  construct _ := .error (.expectedExpression false)
  type _ _ := .error (.expectedExpression false)
  word _ _ := .error (.expectedExpression false)
  pattern _ := .error (.expectedExpression false)
  statement _ := .error (.expectedExpression false)
  item _ := .error (.expectedExpression false)
  useTree _ _ := .error (.expectedExpression false)

variable (rd : Readers)

/-- Reads an expression. -/
def readExpression (structs : Bool) (r : Remainder) : Passing := do
  let (shape, r) ← rd.unary structs r
  withoutNote (rd.operators structs .least shape r)

/-- Reads attributes; those of a block stand inside it. -/
def readAttributes (isInner : Bool) (r : Remainder) : Passing :=
  withoutNote (readAttributesOf (rd.readExpression true) isInner r)

/-- Reads braces with their parts; `inner` says whether attributes of theirs may come first. -/
def readBraced (inner : Bool) (readPart : Remainder → Passing) (r : Remainder) : Passing := do
  let (body, rest) ← readGroup .brace r.tokens
  let within ← if inner then rd.readAttributes true (r.inside body) else .ok (r.inside body)
  let within ← readWhile (fun ts => !ts.isEmpty) readPart within
  .ok (within.leave .brace rest)

/-- Reads a block. -/
def readBlock (inner : Bool) (r : Remainder) : Passing := rd.readBraced inner rd.statement r

end Readers

end RouteTemplate.Typed
