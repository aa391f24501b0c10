/-!
# RouteTemplate.Typed.Token — tokens of a declaration

Tokens, the text that they are shown by, and the small questions that a reader of tokens asks.  A
mark of several characters, such as `::`, is a run of signs of which all but the last are joint.
-/

namespace RouteTemplate.Typed

/-- The brackets around a group. -/
inductive Delimiter where
  | paren | bracket | brace
deriving DecidableEq, Repr

/-- A token, or a group of tokens in brackets. -/
inductive Token where
  /-- A word; a raw word is written with `r#` before it and is never a keyword. -/
  | word (text : List Char) (raw : Bool)
  /-- A sign; it is joint when another sign follows it at once. -/
  | sign (c : Char) (joint : Bool)
  /-- A literal as written, with the text that a string literal stands for. -/
  | literal (source : List Char) (value : Option (List Char))
  | group (delimiter : Delimiter) (body : List Token)

namespace Delimiter

/-- The opening bracket of a group. -/
def opening : Delimiter → Char
  | .paren => '('
  | .bracket => '['
  | .brace => '\x7b'

/-- The closing bracket of a group. -/
def closing : Delimiter → Char
  | .paren => ')'
  | .bracket => ']'
  | .brace => '\x7d'

/-- The group that a character opens. -/
def ofOpening? (c : Char) : Option Delimiter :=
  [paren, bracket, brace].find? (·.opening == c)

/-- The group that a character closes. -/
def ofClosing? (c : Char) : Option Delimiter :=
  [paren, bracket, brace].find? (·.closing == c)

/-- The blank that is put inside braces. -/
def padding : Delimiter → List Char
  | .brace => [' ']
  | _ => []

end Delimiter

/-! ### Text -/

/-- A word as it is written. -/
def wordText (text : List Char) (raw : Bool) : List Char :=
  if raw then 'r' :: '#' :: text else text

/-- Whether no blank is put behind a token. -/
def Token.isJoint : Token → Bool
  | .sign _ joint => joint
  | _ => false

mutual

/-- The text of a token. -/
def Token.text : Token → List Char
  | .word t raw => wordText t raw
  | .sign c _ => [c]
  | .literal source _ => source
  | .group d body =>
    d.opening :: d.padding ++ tokensText body ++ (if body.isEmpty then [] else d.padding)
      ++ [d.closing]

/-- The text of tokens, with one blank behind every token that is not joint and not the last. -/
def tokensText : List Token → List Char
  | [] => []
  | t :: ts => t.text ++ (if ts.isEmpty || t.isJoint then [] else [' ']) ++ tokensText ts

end

/-! ### The front of tokens -/

/-- The tokens behind a mark, if they begin with it. -/
def afterMark? : List Char → List Token → Option (List Token)
  | [], ts => some ts
  | [c], .sign d _ :: ts => if d = c then some ts else none
  | c :: cs, .sign d joint :: ts => if d = c && joint then afterMark? cs ts else none
  | _, _ => none

/-- Whether tokens begin with a mark. -/
def beginsWith (mark : String) (ts : List Token) : Bool := (afterMark? mark.toList ts).isSome

/-- Whether tokens begin with a keyword. -/
def beginsWithWord (keyword : String) : List Token → Bool
  | .word t false :: _ => t == keyword.toList
  | _ => false

/-- Whether tokens begin with a group. -/
def beginsWithGroup (d : Delimiter) : List Token → Bool
  | .group d' _ :: _ => d' == d
  | _ => false

/-- The tokens behind a label, which is a word with a quote before it. -/
def afterLabel? : List Token → Option (List Token)
  | .sign '\'' true :: .word _ _ :: ts => some ts
  | _ => none

end RouteTemplate.Typed
