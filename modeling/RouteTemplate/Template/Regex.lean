import RouteTemplate.Template.Pattern

/-!
# RouteTemplate.Template.Regex — regular expressions

What a pattern is written as is a regular expression.  `Regex.read?` reads a text as such an
expression, one character at a time: an operator character acts as an operator unless a backslash
stands before it, and any other character is literal.  Two anchors, any character, sets of plain
characters, repetitions, alternatives and groups are known; counted repetitions, groups with flags,
other sets, and a backslash before anything but an operator character are refused.
-/

namespace RouteTemplate

namespace Regex

/-- How often a term is repeated. -/
inductive Repetition where
  | zeroOrOne
  | zeroOrMore
  | oneOrMore
deriving DecidableEq, Repr

/-- A term of a regular expression. -/
inductive Term where
  /-- The start of the text. -/
  | start
  /-- The end of the text. -/
  | finish
  | char (c : Char)
  /-- Any character but a line feed. -/
  | any
  /-- One of some characters, or one that is none of them. -/
  | set (negated : Bool) (members : List Char)
  | repeated (t : Term) (times : Repetition) (greedy : Bool)
  /-- A group whose part of the text is captured. -/
  | group (choices : List (List Term))
deriving Repr

end Regex

/-- A regular expression: alternatives, each of them terms in a row. -/
abbrev Regex := List (List Regex.Term)

namespace Regex

mutual

/-- The number of groups in a term. -/
def Term.groups : Term → Nat
  | .start | .finish | .char _ | .any | .set _ _ => 0
  | .repeated t _ _ => t.groups
  | .group choices => groups choices + 1

/-- The number of groups in terms in a row. -/
def rowGroups : List Term → Nat
  | [] => 0
  | t :: ts => t.groups + rowGroups ts

/-- The number of groups in a regular expression. -/
def groups : List (List Term) → Nat
  | [] => 0
  | row :: rows => rowGroups row + groups rows

end

/-! ### Reading -/

/-- What the next character is read as. -/
inductive Mode where
  /-- A literal character or an operator. -/
  | term
  /-- The same, behind a repetition: a question mark makes it take as little as it can. -/
  | repetition
  /-- The character behind a backslash. -/
  | escaped
  /-- The first character of a set. -/
  | setStart
  /-- Another character of a set. -/
  | set (negated : Bool) (members : List Char)
deriving DecidableEq, Repr

/-- What is read between the parentheses of a group, or outside of all groups: the alternatives that
are complete, and the terms of the one that is not, the last of them first. -/
structure Level where
  complete : List (List Term)
  terms : List Term

/-- The level before anything is read. -/
def Level.empty : Level := ⟨[], []⟩

/-- The alternatives of a level that ends. -/
def Level.choices (l : Level) : List (List Term) := l.complete ++ [l.terms.reverse]

/-- A reading in progress: the innermost level, and the levels around it from the inside out. -/
structure Reading where
  mode : Mode
  level : Level
  outer : List Level

namespace Reading

/-- The reading before the first character. -/
def empty : Reading := ⟨.term, .empty, []⟩

/-- One more term. -/
def add (r : Reading) (t : Term) : Reading :=
  ⟨.term, ⟨r.level.complete, t :: r.level.terms⟩, r.outer⟩

/-- The start of an alternative. -/
def alternative (r : Reading) : Reading := ⟨.term, ⟨r.level.choices, []⟩, r.outer⟩

/-- The start of a group. -/
def openGroup (r : Reading) : Reading := ⟨.term, .empty, r.level :: r.outer⟩

/-- The end of a group. -/
def closeGroup? (r : Reading) : Option Reading :=
  match r.outer with
  | [] => none
  | l :: ls => some (add ⟨.term, l, ls⟩ (.group r.level.choices))

/-- A repetition of the last term. -/
def repeat? (r : Reading) (times : Repetition) : Option Reading :=
  match r.level.terms with
  | [] => none
  | t :: ts => some ⟨.repetition, ⟨r.level.complete, .repeated t times true :: ts⟩, r.outer⟩

/-- The repetition that is the last term takes as little as it can. -/
def lazy? (r : Reading) : Option Reading :=
  match r.level.terms with
  | .repeated t times _ :: ts =>
    some ⟨.term, ⟨r.level.complete, .repeated t times false :: ts⟩, r.outer⟩
  | _ => none

/-- The same reading, with the next character read in another way. -/
def await (r : Reading) (mode : Mode) : Reading := ⟨mode, r.level, r.outer⟩

/-- A literal character or an operator. -/
def operator (r : Reading) : Char → Option Reading
  | '\\' => some (r.await .escaped)
  | '^' => some (r.add .start)
  | '$' => some (r.add .finish)
  | '.' => some (r.add .any)
  | '[' => some (r.await .setStart)
  | '(' => some r.openGroup
  | ')' => r.closeGroup?
  | '|' => some r.alternative
  | '?' => r.repeat? .zeroOrOne
  | '*' => r.repeat? .zeroOrMore
  | '+' => r.repeat? .oneOrMore
  | '{' => none
  | c => some (r.add (.char c))

/-- A character of a set, or the end of the set. -/
def member (r : Reading) (negated : Bool) (members : List Char) (c : Char) : Option Reading :=
  if c = ']' then (if members = [] then none else some (r.add (.set negated members)))
  else if c ∈ ['[', '\\', '-', '&', '~'] then none
  else some (r.await (.set negated (members ++ [c])))

/-- The reading after one more character, unless the text is refused. -/
def step (r : Reading) (c : Char) : Option Reading :=
  match r.mode with
  | .term => r.operator c
  | .repetition => if c = '?' then r.lazy? else r.operator c
  | .escaped => if c ∈ Pattern.metaCharacters then some (r.add (.char c)) else none
  | .setStart => if c = '^' then some (r.await (.set true [])) else r.member false [] c
  | .set negated members => r.member negated members c

/-- What is read when the text ends. -/
def finish? (r : Reading) : Option Regex :=
  match r.mode, r.outer with
  | .term, [] => some r.level.choices
  | .repetition, [] => some r.level.choices
  | _, _ => none

end Reading

/-- Reads a regular expression. -/
def read? (cs : List Char) : Option Regex :=
  (cs.foldlM Reading.step Reading.empty).bind Reading.finish?

end Regex

end RouteTemplate
