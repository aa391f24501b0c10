import RouteTemplate.Naming.Snake
import RouteTemplate.Text.Pieces
import RouteTemplate.Typed.Error
import RouteTemplate.Typed.Lexer

/-!
# RouteTemplate.Typed.Parameter — parameters as identifiers

A typed route gives each parameter of its template an identifier, which is the parameter's name in
snake case.  The names are scanned first, over the whole template and without compiling it, and the
scan words its own faults; then each name, in order, has to form an identifier that no earlier one
forms.
-/

namespace RouteTemplate.Typed

/-- A parameter of a template and the identifier that it goes by. -/
structure Parameter where
  name : List Char
  ident : List Char
deriving DecidableEq, Repr

/-! ### Names -/

/-- The parameter names of the pieces of a template, after the names `seen`, or what is wrong with
the first piece that is at fault. -/
def scanNames (template : List Char) (seen : List (List Char)) :
    List (List Char) → Except String (List (List Char))
  | [] => .ok seen
  | (':' :: name) :: ps =>
    if name.isEmpty then
      .error ("template " ++ Quoted.quoted template ++ " has a parameter segment without a name")
    else if name.head? == some ':' then
      .error ("template " ++ Quoted.quoted template ++ " has malformed parameter name "
        ++ Quoted.quoted name)
    else if seen.contains name then
      .error ("template " ++ Quoted.quoted template ++ " uses parameter name " ++ Quoted.quoted name
        ++ " more than once")
    else scanNames template (seen ++ [name]) ps
  | _ :: ps => scanNames template seen ps

/-- The parameter names of a template text, or what is wrong with it. -/
def templateNames (text : List Char) : Except String (List (List Char)) :=
  scanNames text [] (pieces text)

/-! ### Identifiers -/

/-- What becomes of a text where an identifier is wanted. -/
inductive IdentifierReading where
  | identifier
  | refused
  /-- The text reads as one word, but has more to it than the word. -/
  | unusable
deriving DecidableEq, Repr

/-- Reads a text where an identifier is wanted: it has to consist of one word, and of nothing else. -/
def readIdentifierText (text : List Char) : IdentifierReading :=
  match tokens? text with
  | some [.word w raw] =>
    if !raw && Naming.isReserved w then .refused
    else if Naming.isWord text then .identifier
    else .unusable
  | _ => .refused

/-- The parameter of a name, after parameters with the identifiers `seen`. -/
def readParameter (seen : List (List Char)) (name : List Char) : Except DeclarationError Parameter :=
  let ident := Naming.snakeCase name
  match readIdentifierText ident with
  | .refused => .error (.notIdentifier name ident)
  | .unusable => .error (.unusable ident)
  | .identifier =>
    if seen.contains ident then .error (.clash name ident) else .ok ⟨name, ident⟩

/-- The parameters of names, after parameters with the identifiers `seen`. -/
def readParameters (seen : List (List Char)) :
    List (List Char) → Except DeclarationError (List Parameter)
  | [] => .ok []
  | n :: ns =>
    match readParameter seen n with
    | .error e => .error e
    | .ok p =>
      match readParameters (seen ++ [p.ident]) ns with
      | .error e => .error e
      | .ok ps => .ok (p :: ps)

/-- The parameters of a template text. -/
def parameters (text : List Char) : Except DeclarationError (List Parameter) :=
  match templateNames text with
  | .error message => .error (.template message)
  | .ok ns => readParameters [] ns

end RouteTemplate.Typed
