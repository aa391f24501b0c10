import RouteTemplate.Text.Quoted
import RouteTemplate.Typed.Token

/-!
# RouteTemplate.Typed.Error — why a declaration is refused
-/

namespace RouteTemplate.Typed

/-- Why a declaration of a typed route is refused.  The flag of an expectation says that it is the
end of the text or of a group that disappoints it. -/
inductive DeclarationError where
  /-- The text does not consist of tokens. -/
  | unreadable
  | expectedIdentifier (atEnd : Bool)
  | keyword (word : List Char)
  | expectedMark (mark : String)
  | expectedTemplate
  | expectedGroup (d : Delimiter) (atEnd : Bool)
  | expectedPathWord (atEnd : Bool)
  | nestedAttribute
  | expectedExpression (atEnd : Bool)
  | expectedMacroGroup (atEnd : Bool)
  | expectedLabelled (atEnd : Bool)
  /-- What comes is none of what could stand here. -/
  | expected (starts : List String) (atEnd : Bool)
  /-- A range that lacks an end stands among patterns in square brackets. -/
  | openRange
  /-- The bounds of a type name no trait. -/
  | expectedTrait (isObject : Bool)
  /-- A receiver is not the first parameter; the first one may be another receiver. -/
  | unexpectedReceiver (isSecond : Bool)
  /-- What stands behind an expression in a block does not end the statement. -/
  | expectedStatementEnd
  /-- A loop with a label is left with a value that has a label itself. -/
  | expectedParentheses
  | chainedComparison
  | appliedCast (application : String)
  /-- Tokens are left over, inside brackets or at the end. -/
  | leftover (within : Option Delimiter)
  /-- The scan of the template found a fault. -/
  | template (fault : String)
  | notIdentifier (param tried : List Char)
  | clash (param ident : List Char)
  /-- A text that is accepted where an identifier is wanted although it is none. -/
  | unusable (text : List Char)
deriving DecidableEq, Repr

/-- The name of a group in messages. -/
def Delimiter.name : Delimiter → String
  | .paren => "parentheses"
  | .bracket => "square brackets"
  | .brace => "curly braces"

namespace DeclarationError

/-- The text of an expectation, which says so when it is the end that disappoints it. -/
def expectation (atEnd : Bool) (what : String) : String :=
  if atEnd then "unexpected end of input, " ++ what else what

/-- A text between backquotes. -/
def tickedText (s : String) : String := "\x60" ++ s ++ "\x60"

/-- Characters between backquotes. -/
def ticked (cs : List Char) : String := tickedText (String.ofList cs)

/-- The expectation of one of several starts. -/
def oneOf : List String → String
  | [] => "unexpected token"
  | [start] => "expected " ++ start
  | [first, second] => "expected " ++ first ++ " or " ++ second
  | starts => "expected one of: " ++ ", ".intercalate starts

/-- The text of an error. -/
def message : DeclarationError → String
  | .unreadable => "cannot parse string into token stream"
  | .expectedIdentifier e => expectation e "expected identifier"
  | .keyword w => "expected identifier, found keyword " ++ ticked w
  | .expectedMark m => "expected " ++ tickedText m
  | .expectedTemplate =>
    "expected a string literal, e.g. " ++ tickedText "typed_path!(UserPath = \"/users/:id\")"
  | .expectedGroup d e => expectation e ("expected " ++ d.name)
  | .expectedPathWord e => expectation e ("expected path segment after " ++ tickedText "::")
  | .nestedAttribute => "unexpected attribute inside of attribute"
  | .expectedExpression e => expectation e "expected an expression"
  | .expectedMacroGroup e => expectation e "expected delimiter"
  | .expectedLabelled e => expectation e "expected loop or block expression"
  | .expected [] true => "unexpected end of input"
  | .expected starts e => expectation e (oneOf starts)
  | .openRange => "range pattern is not allowed unparenthesized inside slice pattern"
  | .expectedTrait true => "at least one trait is required for an object type"
  | .expectedTrait false => "at least one trait must be specified"
  | .unexpectedReceiver true => "unexpected second method receiver"
  | .unexpectedReceiver false => "unexpected method receiver"
  | .expectedStatementEnd => "unexpected token, expected " ++ tickedText ";"
  | .expectedParentheses => "parentheses required"
  | .chainedComparison => "comparison operators cannot be chained"
  | .appliedCast a => "casts cannot be followed by " ++ a
  | .leftover none => "unexpected token"
  | .leftover (some d) => "unexpected token, expected " ++ ticked [d.closing]
  | .template fault => fault
  | .notIdentifier p t =>
    "parameter " ++ Quoted.quoted p ++ " does not form a valid Rust identifier (tried " ++ ticked t
      ++ ")"
  | .clash p i =>
    "parameter " ++ Quoted.quoted p ++ " clashes with another parameter once converted to "
      ++ ticked i
  | .unusable t => Quoted.quoted t ++ " is not a valid Ident"

/-- Whether the declaration is not refused in an orderly way. -/
def isAbrupt : DeclarationError → Bool
  | .unusable _ => true
  | _ => false

end DeclarationError

end RouteTemplate.Typed
