import RouteTemplate.Naming.Identifier
import RouteTemplate.Text.Percent
import RouteTemplate.Text.Quoted
import RouteTemplate.Typed.Token

/-!
# RouteTemplate.Typed.Lexer — reading tokens

Blanks and comments separate tokens, and a documentation comment stands for an attribute.  A literal
is looked for first, then a sign, then a word, then the placeholder.  Every reader takes the text in
front of it and gives what it read with the text behind it.
-/

namespace RouteTemplate.Typed

open Naming (isIdentStart isIdentContinue)
open Percent (hexValue?)

/-! ### Blanks and comments -/

/-- Blanks between tokens; the two direction marks count as blanks. -/
def isBlank (c : Char) : Bool := Unicode.isWhiteSpace c || c.toNat == 0x200E || c.toNat == 0x200F

/-- The rest of a line, and what follows from its line feed on. -/
def spanLine : List Char → List Char × List Char
  | [] => ([], [])
  | '\n' :: cs => ([], '\n' :: cs)
  | '\r' :: '\n' :: cs => ([], '\n' :: cs)
  | c :: cs =>
    let (line, rest) := spanLine cs
    (c :: line, rest)

/-- A block comment up to the end of its outermost level, `depth` levels being open. -/
def spanBlock? (depth : Nat) : List Char → Option (List Char × List Char)
  | [] => none
  | '/' :: '*' :: cs => (spanBlock? (depth + 1) cs).map fun (b, rest) => ('/' :: '*' :: b, rest)
  | '*' :: '/' :: cs =>
    if depth ≤ 1 then some (['*', '/'], cs)
    else (spanBlock? (depth - 1) cs).map fun (b, rest) => ('*' :: '/' :: b, rest)
  | c :: cs => (spanBlock? depth cs).map fun (b, rest) => (c :: b, rest)

/-- The text behind a plain comment, if there is one. -/
def afterComment? : List Char → Option (List Char)
  | '/' :: '/' :: '/' :: '/' :: cs => some (spanLine cs).2
  | '/' :: '/' :: '/' :: _ => none
  | '/' :: '/' :: '!' :: _ => none
  | '/' :: '/' :: cs => some (spanLine cs).2
  | '/' :: '*' :: '*' :: '/' :: cs => some cs
  | '/' :: '*' :: '*' :: '*' :: cs => (spanBlock? 0 ('/' :: '*' :: '*' :: '*' :: cs)).map (·.2)
  | '/' :: '*' :: '*' :: _ => none
  | '/' :: '*' :: '!' :: _ => none
  | '/' :: '*' :: cs => (spanBlock? 0 ('/' :: '*' :: cs)).map (·.2)
  | _ => none

/-- The text behind blanks and plain comments. -/
def skipBlanks : Nat → List Char → List Char
  | 0, cs => cs
  | fuel + 1, cs =>
    match afterComment? cs with
    | some rest => skipBlanks fuel rest
    | none =>
      match cs with
      | c :: rest => if isBlank c then skipBlanks fuel rest else cs
      | [] => []

/-- Whether every carriage return stands before a line feed. -/
def noBareReturn : List Char → Bool
  | [] => true
  | '\r' :: '\n' :: cs => noBareReturn cs
  | '\r' :: _ => false
  | _ :: cs => noBareReturn cs

/-- The text of a documentation comment and whether it documents what encloses it. -/
def docComment? : List Char → Option (List Char × Bool × List Char)
  | '/' :: '/' :: '!' :: cs =>
    let (line, rest) := spanLine cs
    some (line, true, rest)
  | '/' :: '*' :: '!' :: cs =>
    (spanBlock? 0 ('/' :: '*' :: '!' :: cs)).map fun (b, rest) =>
      ((b.drop 3).dropLast.dropLast, true, rest)
  | '/' :: '/' :: '/' :: cs =>
    if cs.head? = some '/' then none
    else
      let (line, rest) := spanLine cs
      some (line, false, rest)
  | '/' :: '*' :: '*' :: cs =>
    if cs.head? = some '*' then none
    else
      (spanBlock? 0 ('/' :: '*' :: '*' :: cs)).map fun (b, rest) =>
        ((b.drop 3).dropLast.dropLast, false, rest)
  | _ => none

/-- The body of a string literal; a zero has a longer escape where a digit could be taken for a part
of the short one. -/
def stringBody : List Char → List Char
  | [] => []
  | c :: cs =>
    (if c = '\x00' && cs.head?.any (fun d => '0' ≤ d && d ≤ '7') then "\\x00".toList
      else Quoted.escapeChar c) ++ stringBody cs

/-- A text as a string literal. -/
def stringLiteral (text : List Char) : Token :=
  .literal ('"' :: stringBody text ++ ['"']) (some text)

/-- The attribute that a documentation comment stands for. -/
def docTokens (text : List Char) (inner : Bool) : List Token :=
  let documented := Token.group .bracket
    [.word "doc".toList false, .sign '=' false, stringLiteral text]
  if inner then [.sign '#' false, .sign '!' false, documented] else [.sign '#' false, documented]

/-! ### Words -/

/-- A word of identifier characters. -/
def spanWord? : List Char → Option (List Char × List Char)
  | [] => none
  | c :: cs =>
    if isIdentStart c then
      let (w, rest) := cs.span isIdentContinue
      some (c :: w, rest)
    else none

/-- Words that cannot be raw. -/
def neverRaw : List (List Char) := ["_", "super", "self", "Self", "crate"].map String.toList

/-- A word, raw or not. -/
def word? : List Char → Option (List Char × Bool × List Char)
  | 'r' :: '#' :: cs =>
    match spanWord? cs with
    | some (w, rest) => if neverRaw.contains w then none else some (w, true, rest)
    | none => none
  | cs => (spanWord? cs).map fun (w, rest) => (w, false, rest)

/-- Beginnings of literals that are not words, even where the literal is faulty. -/
def literalPrefixes : List (List Char) :=
  ["r\"", "r#\"", "r##", "b\"", "b'", "br\"", "br#", "c\"", "cr\"", "cr#"].map String.toList

/-- The text behind a suffix of a literal. -/
def skipSuffix (cs : List Char) : List Char :=
  match spanWord? cs with
  | some (_, rest) => rest
  | none => cs

/-! ### Strings and characters -/

/-- What a literal in quotes may hold. -/
inductive QuoteStyle where
  | text | bytes | cText
deriving DecidableEq

/-- Reads the two digits of an escape of one byte. -/
def byteEscape? (style : QuoteStyle) : List Char → Option (Char × List Char)
  | a :: b :: rest =>
    match hexValue? a, hexValue? b with
    | some x, some y =>
      match style with
      | .text => if x < 8 then some (Char.ofNat (x * 16 + y), rest) else none
      | .bytes => some (Char.ofNat (x * 16 + y), rest)
      | .cText => if x = 0 ∧ y = 0 then none else some (Char.ofNat (x * 16 + y), rest)
    | _, _ => none
  | _ => none

/-- Reads the digits of a code point up to the closing brace, `count` digits with the given value
being read. -/
def codePoint? (value count : Nat) : List Char → Option (Char × List Char)
  | [] => none
  | c :: cs =>
    match hexValue? c with
    | some d => if count = 6 then none else codePoint? (value * 16 + d) (count + 1) cs
    | none =>
      if c = '_' then (if count = 0 then none else codePoint? value count cs)
      else if c = '\x7d' then
        (if count ≠ 0 ∧ value.isValidChar then some (Char.ofNat value, cs) else none)
      else none

/-- Reads the escape of a code point behind its `u`. -/
def unicodeEscape? : List Char → Option (Char × List Char)
  | '\x7b' :: cs => codePoint? 0 0 cs
  | _ => none

/-- The text behind the blanks that follow a backslash at the end of a line. -/
def afterLineBreak? : List Char → Option (List Char)
  | [] => none
  | '\r' :: '\n' :: cs => afterLineBreak? cs
  | '\r' :: _ => none
  | c :: cs => if c = ' ' ∨ c = '\t' ∨ c = '\n' then afterLineBreak? cs else some (c :: cs)

/-- Reads an escape behind its backslash; one at the end of a line stands for nothing. -/
def escape? (style : QuoteStyle) : List Char → Option (Option Char × List Char)
  | 'x' :: cs => (byteEscape? style cs).map fun (c, rest) => (some c, rest)
  | 'u' :: cs =>
    match style, unicodeEscape? cs with
    | .text, some (c, rest) => some (some c, rest)
    | .cText, some (c, rest) => if c.toNat = 0 then none else some (some c, rest)
    | _, _ => none
  | 'n' :: cs => some (some '\n', cs)
  | 'r' :: cs => some (some '\r', cs)
  | 't' :: cs => some (some '\t', cs)
  | '\\' :: cs => some (some '\\', cs)
  | '\'' :: cs => some (some '\'', cs)
  | '"' :: cs => some (some '"', cs)
  | '0' :: cs => if style = .cText then none else some (some '\x00', cs)
  | '\n' :: cs => (afterLineBreak? cs).map fun rest => (none, rest)
  | '\r' :: '\n' :: cs => (afterLineBreak? cs).map fun rest => (none, rest)
  | _ => none

/-- Whether a character may stand in quotes as itself. -/
def QuoteStyle.admits (style : QuoteStyle) (c : Char) : Bool :=
  match style with
  | .text => true
  | .bytes => c.toNat < 0x80
  | .cText => c.toNat ≠ 0

/-- Reads up to the closing quote. -/
def quotedBody? (style : QuoteStyle) : Nat → List Char → Option (List Char × List Char)
  | 0, _ => none
  | fuel + 1, cs =>
    match cs with
    | [] => none
    | '"' :: rest => some ([], rest)
    | '\r' :: '\n' :: rest => (quotedBody? style fuel rest).map fun (b, r) => ('\n' :: b, r)
    | '\r' :: _ => none
    | '\\' :: rest =>
      match escape? style rest with
      | some (c?, rest) => (quotedBody? style fuel rest).map fun (b, r) => (c?.toList ++ b, r)
      | none => none
    | c :: rest =>
      if style.admits c then (quotedBody? style fuel rest).map fun (b, r) => (c :: b, r) else none

/-- Reads a raw body up to a quote that the closing marks follow. -/
def rawBody? (style : QuoteStyle) (marks : List Char) : List Char → Option (List Char × List Char)
  | [] => none
  | '"' :: cs =>
    if marks.isPrefixOf cs then some ([], cs.drop marks.length)
    else (rawBody? style marks cs).map fun (b, r) => ('"' :: b, r)
  | '\r' :: '\n' :: cs => (rawBody? style marks cs).map fun (b, r) => ('\r' :: '\n' :: b, r)
  | '\r' :: _ => none
  | c :: cs =>
    if style.admits c then (rawBody? style marks cs).map fun (b, r) => (c :: b, r) else none

/-- The greatest number of marks around a raw string. -/
def maxRawMarks : Nat := 255

/-- Reads a raw string behind its letters. -/
def rawString? (style : QuoteStyle) (cs : List Char) : Option (List Char × List Char) :=
  let (marks, rest) := cs.span (· == '#')
  match rest with
  | '"' :: body => if marks.length ≤ maxRawMarks then rawBody? style marks body else none
  | _ => none

/-- Reads the character or escape of a character literal and its closing quote. -/
def charBody? (style : QuoteStyle) (cs : List Char) : Option (List Char) :=
  let rest? :=
    match cs with
    | '\\' :: '\n' :: _ => none
    | '\\' :: '\r' :: _ => none
    | '\\' :: rest => (escape? style rest).map (·.2)
    | c :: rest => if style.admits c then some rest else none
    | [] => none
  match rest? with
  | some ('\'' :: rest) => some rest
  | _ => none

/-- Reads a literal in quotes, with the text that a string stands for. -/
def quotedLiteral? (cs : List Char) : Option (Option (List Char) × List Char) :=
  let cooked (style : QuoteStyle) (body : List Char) := quotedBody? style (body.length + 1) body
  let read? : Option (Option (List Char) × List Char) :=
    match cs with
    | '"' :: body => (cooked .text body).map fun (b, r) => (some b, r)
    | 'b' :: '"' :: body => (cooked .bytes body).map fun (_, r) => (none, r)
    | 'c' :: '"' :: body => (cooked .cText body).map fun (_, r) => (none, r)
    | 'b' :: 'r' :: body => (rawString? .bytes body).map fun (_, r) => (none, r)
    | 'c' :: 'r' :: body => (rawString? .cText body).map fun (_, r) => (none, r)
    | 'r' :: body => (rawString? .text body).map fun (b, r) => (some b, r)
    | 'b' :: '\'' :: body => (charBody? .bytes body).map fun r => (none, r)
    | '\'' :: body => (charBody? .text body).map fun r => (none, r)
    | _ => none
  read?.map fun (value, rest) => (value, skipSuffix rest)

/-! ### Numbers -/

/-- Decimal digits and underscores. -/
def isDigitOrGap (c : Char) : Bool := c.isDigit || c == '_'

/-- The text behind an exponent, or `before` where there are no digits. -/
def afterExponent? (before : Option (List Char)) (cs : List Char) : Option (List Char) :=
  let isGap (c : Char) : Bool := c == '_'
  let cs := cs.dropWhile isGap
  let cs :=
    match cs with
    | '+' :: rest => rest.dropWhile isGap
    | '-' :: rest => rest.dropWhile isGap
    | cs => cs
  match cs with
  | c :: rest => if c.isDigit then some (rest.dropWhile isDigitOrGap) else before
  | [] => before

/-- The text behind a number with a point or an exponent. -/
def afterFloatDigits? : List Char → Option (List Char)
  | [] => none
  | c :: cs =>
    if !c.isDigit then none
    else
      match cs.dropWhile isDigitOrGap with
      | '.' :: rest =>
        if rest.head?.any fun d => d == '.' || isIdentStart d then none
        else
          match rest.dropWhile isDigitOrGap with
          | 'e' :: tail => afterExponent? (some ('e' :: tail)) tail
          | 'E' :: tail => afterExponent? (some ('E' :: tail)) tail
          | tail => some tail
      | 'e' :: tail => afterExponent? none tail
      | 'E' :: tail => afterExponent? none tail
      | _ => none

/-- The base of a whole number and its digits. -/
def splitBase : List Char → Nat × List Char
  | '0' :: 'x' :: cs => (16, cs)
  | '0' :: 'o' :: cs => (8, cs)
  | '0' :: 'b' :: cs => (2, cs)
  | cs => (10, cs)

/-- The text behind the digits of a whole number; a decimal digit that is too great for the base is
refused, a letter that is too great ends the number. -/
def afterDigits? (base : Nat) (empty : Bool) : List Char → Option (List Char)
  | [] => if empty then none else some []
  | c :: cs =>
    match hexValue? c with
    | some d =>
      if d < base then afterDigits? base false cs
      else if d < 10 then none
      else if empty then none
      else some (c :: cs)
    | none =>
      if c = '_' then (if empty ∧ base = 10 then none else afterDigits? base empty cs)
      else if empty then none
      else some (c :: cs)

/-- The text behind a number's suffix, unless the number runs into a word. -/
def endNumber? (cs : List Char) : Option (List Char) :=
  let rest := skipSuffix cs
  if rest.head?.any isIdentContinue then none else some rest

/-- The text behind a number. -/
def afterNumber? (cs : List Char) : Option (List Char) :=
  match (afterFloatDigits? cs).bind endNumber? with
  | some rest => some rest
  | none =>
    let (base, digits) := splitBase cs
    (afterDigits? base true digits).bind endNumber?

/-! ### Tokens -/

/-- Characters that are signs. -/
def signs : List Char :=
  ['~', '!', '@', '#', '$', '%', '^', '&', '*', '-', '=', '+', '|', ';', ':', ',', '<', '.', '>',
    '/', '?', '\'']

/-- A sign, unless a comment begins there. -/
def sign? : List Char → Option (Char × List Char)
  | '/' :: '/' :: _ => none
  | '/' :: '*' :: _ => none
  | c :: cs => if c ∈ signs then some (c, cs) else none
  | [] => none

/-- A sign as a token.  A single quote has to begin a label, which no quote ends. -/
def signToken? (cs : List Char) : Option (Token × List Char) :=
  match sign? cs with
  | none => none
  | some ('\'', rest) =>
    match word? rest with
    | none => none
    | some (_, raw, behind) =>
      match behind with
      | '\'' :: _ => none
      | '#' :: _ => if raw then some (.sign '\'' true, rest) else none
      | _ => some (.sign '\'' true, rest)
  | some (c, rest) => some (.sign c (sign? rest).isSome, rest)

/-- A literal as a token. -/
def literalToken? (cs : List Char) : Option (Token × List Char) :=
  let source (rest : List Char) := cs.take (cs.length - rest.length)
  match quotedLiteral? cs with
  | some (value, rest) => some (.literal (source rest) value, rest)
  | none => (afterNumber? cs).map fun rest => (.literal (source rest) none, rest)

/-- A word as a token. -/
def wordToken? (cs : List Char) : Option (Token × List Char) :=
  if literalPrefixes.any (·.isPrefixOf cs) then none
  else (word? cs).map fun (w, raw, rest) => (.word w raw, rest)

/-- A text in parentheses that is one literal and stands for nothing. -/
def placeholder : List Char := "(/*ERROR*/)".toList

/-- The placeholder as a token. -/
def placeholderToken? (cs : List Char) : Option (Token × List Char) :=
  if placeholder.isPrefixOf cs then some (.literal placeholder none, cs.drop placeholder.length)
  else none

/-- A token that is no group. -/
def leaf? (cs : List Char) : Option (Token × List Char) :=
  (literalToken? cs).orElse fun _ => (signToken? cs).orElse fun _ =>
    (wordToken? cs).orElse fun _ => placeholderToken? cs

/-- The group that begins in front of a text. -/
def opened? : List Char → Option Delimiter
  | [] => none
  | c :: cs => if placeholder.isPrefixOf (c :: cs) then none else Delimiter.ofOpening? c

/-- Reads tokens to the end.  `open` holds the groups that are open with the tokens before them, and
`current` the tokens of the innermost one, both from the last to the first. -/
def tokensFrom? : Nat → List (Delimiter × List Token) → List Token → List Char → Option (List Token)
  | 0, _, _, _ => none
  | fuel + 1, outer, current, cs =>
    let cs := skipBlanks cs.length cs
    match (docComment? cs).filter fun d => noBareReturn d.1 with
    | some (text, inner, rest) =>
      tokensFrom? fuel outer ((docTokens text inner).reverse ++ current) rest
    | none =>
      match cs with
      | [] => if outer.isEmpty then some current.reverse else none
      | c :: rest =>
        match opened? (c :: rest) with
        | some d => tokensFrom? fuel ((d, current) :: outer) [] rest
        | none =>
          match Delimiter.ofClosing? c with
          | some d =>
            match outer with
            | (d', before) :: outer =>
              if d = d' then tokensFrom? fuel outer (.group d current.reverse :: before) rest
              else none
            | [] => none
          | none =>
            match leaf? (c :: rest) with
            | some (t, rest) => tokensFrom? fuel outer (t :: current) rest
            | none => none

/-- The byte order mark that may stand before a text. -/
def byteOrderMark : Char := Char.ofNat 0xFEFF

/-- The tokens of a text, if it can be read. -/
def tokens? (cs : List Char) : Option (List Token) :=
  let cs := if cs.head? = some byteOrderMark then cs.drop 1 else cs
  tokensFrom? (cs.length + 1) [] [] cs

end RouteTemplate.Typed
