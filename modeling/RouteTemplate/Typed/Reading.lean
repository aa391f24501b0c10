import RouteTemplate.Naming.Identifier
import RouteTemplate.Typed.Error

/-!
# RouteTemplate.Typed.Reading — reading from the front of tokens

A reader takes the tokens in front of it and gives what it read with the tokens behind it.  A group
that holds more tokens than its reader takes is no fault at once: the first such group is remembered,
and is reported when all else is well.
-/

namespace RouteTemplate.Typed

/-- What a reader of tokens gives: a result with the tokens behind it, or an error. -/
abbrev Reading (α : Type) := Except DeclarationError (α × List Token)

/-- Refuses tokens that begin with none of what could stand here. -/
def refuse {α : Type} (starts : List String) (ts : List Token) : Except DeclarationError α :=
  .error (.expected starts ts.isEmpty)

/-- Whether tokens begin with an identifier. -/
def beginsWithIdentifier : List Token → Bool
  | .word t raw :: _ => raw || !Naming.isReserved t
  | _ => false

/-- Whether tokens begin with a word, keyword or not. -/
def beginsWithAnyWord : List Token → Bool
  | .word _ _ :: _ => true
  | _ => false

/-- Whether a literal is a number. -/
def isNumber (source : List Char) : Bool := source.head?.any Char.isDigit

/-- Whether tokens begin with a number. -/
def beginsWithNumber : List Token → Bool
  | .literal source _ :: _ => isNumber source
  | _ => false

/-- What the name of a member may begin with. -/
def memberStarts : List String := ["identifier", "integer"]

/-- Whether tokens begin with a literal. -/
def beginsWithLiteral : List Token → Bool
  | .literal _ _ :: _ => true
  | .word t false :: _ => t == "true".toList || t == "false".toList
  | .sign '-' _ :: ts => beginsWithNumber ts
  | _ => false

/-- The tokens behind the literal that they begin with. -/
def behindLiteral (ts : List Token) : List Token :=
  if beginsWith "-" ts then ts.drop 2 else ts.drop 1

/-- Keywords that begin a path. -/
def beginsWithPathWord (ts : List Token) : Bool :=
  ["super", "self", "Self", "crate"].any (beginsWithWord · ts)

/-- Whether tokens begin with a path. -/
def beginsWithPath (ts : List Token) : Bool :=
  beginsWithIdentifier ts || beginsWithPathWord ts || beginsWith "::" ts || beginsWith "<" ts

/-- Reads an identifier. -/
def readIdentifier : List Token → Reading (List Char)
  | [] => .error (.expectedIdentifier true)
  | .word t raw :: rest =>
    if !raw && Naming.isReserved t then .error (.keyword t) else .ok (wordText t raw, rest)
  | _ => .error (.expectedIdentifier false)

/-- Reads a mark. -/
def readMark (mark : String) (ts : List Token) : Except DeclarationError (List Token) :=
  match afterMark? mark.toList ts with
  | some rest => .ok rest
  | none => .error (.expectedMark mark)

/-- The tokens behind a mark, or the tokens themselves where it is missing. -/
def skipMark (mark : String) (ts : List Token) : List Token := (afterMark? mark.toList ts).getD ts

/-- Reads a keyword. -/
def readWord (keyword : String) (ts : List Token) : Except DeclarationError (List Token) :=
  if beginsWithWord keyword ts then .ok (ts.drop 1)
  else refuse [DeclarationError.tickedText keyword] ts

/-- The tokens behind a keyword, or the tokens themselves where it is missing. -/
def skipWord (keyword : String) (ts : List Token) : List Token :=
  if beginsWithWord keyword ts then ts.drop 1 else ts

/-- The tokens behind a label, or the tokens themselves where there is none. -/
def skipLabel (ts : List Token) : List Token := (afterLabel? ts).getD ts

/-- Reads a group and gives its tokens. -/
def readGroup (d : Delimiter) : List Token → Reading (List Token)
  | .group d' body :: rest =>
    if d' = d then .ok (body, rest) else .error (.expectedGroup d false)
  | ts => .error (.expectedGroup d ts.isEmpty)

/-! ### What remains -/

/-- The tokens that are still to be read, and the first group in which some were left over. -/
structure Remainder where
  tokens : List Token
  stray : Option Delimiter

namespace Remainder

/-- Nothing read so far. -/
def ofTokens (ts : List Token) : Remainder := ⟨ts, none⟩

/-- The tokens inside a group, to be read next. -/
def inside (r : Remainder) (body : List Token) : Remainder := ⟨body, r.stray⟩

/-- Leaves a group of which `inner` remains and goes on behind it. -/
def leave (inner : Remainder) (d : Delimiter) (rest : List Token) : Remainder :=
  ⟨rest, inner.stray.or (if inner.tokens.isEmpty then none else some d)⟩

/-- The remainder after some tokens were read. -/
def behind (r : Remainder) (rest : List Token) : Remainder := ⟨rest, r.stray⟩

/-- The error for the tokens that are left over at the end, if there are any. -/
def leftover? (r : Remainder) : Option DeclarationError :=
  match r.stray with
  | some d => some (.leftover (some d))
  | none => if r.tokens.isEmpty then none else some (.leftover none)

end Remainder

/-! ### Reading through

A reader that keeps nothing gives what remains, perhaps with a note on what it read. -/

/-- What a reader gives that keeps nothing. -/
abbrev Passing := Except DeclarationError Remainder

/-- What a reader gives that keeps the answer to a question. -/
abbrev Noting := Except DeclarationError (Bool × Remainder)

/-- A reading without its note. -/
def withoutNote {α : Type} (x : Except DeclarationError (α × Remainder)) : Passing := do
  let (_, r) ← x
  .ok r

/-- A reading with a note on it. -/
def withNote {α : Type} (note : α) (x : Passing) : Except DeclarationError (α × Remainder) := do
  let r ← x
  .ok (note, r)

/-- Goes from state to state while a state asks for it.  Every step takes a token at least, so that
the tokens at the start bound the steps; the one that may be left has none to take. -/
def stepWhile {α : Type} (goesOn : α → Bool) (step : α → Except DeclarationError α) :
    List Token → α → Except DeclarationError α
  | [], a => if goesOn a then step a else .ok a
  | _ :: ts, a =>
    if goesOn a then do
      let a ← step a
      stepWhile goesOn step ts a
    else .ok a

/-- Reads parts while the tokens ask for one. -/
def readWhile (goesOn : List Token → Bool) (readPart : Remainder → Passing) (r : Remainder) :
    Passing :=
  stepWhile (fun r => goesOn r.tokens) readPart r.tokens r

/-- Reads a part and the mark behind it, which may be missing at the end. -/
def readSeparated (mark : String) (isEnd : List Token → Bool) (readPart : Remainder → Passing)
    (r : Remainder) : Passing := do
  let r ← readPart r
  if isEnd r.tokens then .ok r
  else do
    let rest ← readMark mark r.tokens
    .ok (r.behind rest)

/-- Reads parts with a mark between them up to an end, which is left. -/
def readListed (mark : String) (isEnd : List Token → Bool) (readPart : Remainder → Passing)
    (r : Remainder) : Passing :=
  readWhile (fun ts => !isEnd ts) (readSeparated mark isEnd readPart) r

/-- Reads parts with commas between them up to the end of a group or to the last of them, which is
of another kind and is left. -/
def readUpTo (isLast : List Token → Bool) (readPart : Remainder → Passing) (r : Remainder) :
    Passing :=
  readWhile (fun ts => !ts.isEmpty && !isLast ts) (readSeparated "," List.isEmpty readPart) r

/-- Reads parts as long as a mark stands behind them, but none where they end. -/
def readSeries (mark : String) (isEnd : List Token → Bool) (readPart : Remainder → Passing)
    (r : Remainder) : Passing :=
  withoutNote (stepWhile (fun s : Bool × Remainder => s.1 && !isEnd s.2.tokens)
    (fun s => do
      let r ← readPart s.2
      .ok (beginsWith mark r.tokens, r.behind (skipMark mark r.tokens)))
    r.tokens (true, r))

/-- Reads a list with its angle brackets. -/
def readAngled (readPart : Remainder → Passing) (r : Remainder) : Passing := do
  let rest ← readMark "<" r.tokens
  let r ← readListed "," (beginsWith ">") readPart (r.behind rest)
  .ok (r.behind (r.tokens.drop 1))

end RouteTemplate.Typed
