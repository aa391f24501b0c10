import RouteTemplate.Typed.Block
import RouteTemplate.Typed.Parameter

/-!
# RouteTemplate.Typed.Declaration — declarations of typed routes

A declaration has attributes, a visibility, a name, an equals sign, the template as a string and
perhaps a semicolon.  Its parts are read in this order and the first fault is reported; faults of
the template come after those of the form, and tokens left over are reported last.
-/

namespace RouteTemplate.Typed

/-- A declaration of a typed route. -/
structure Declaration where
  attributes : List Attribute
  visibility : Visibility
  name : List Char
  template : List Char
  parameters : List Parameter
deriving DecidableEq, Repr

/-- Reads the template. -/
def readTemplate : List Token → Reading (List Char)
  | .literal _ (some v) :: rest => .ok (v, rest)
  | _ => .error .expectedTemplate

/-- Reads the semicolon, if anything follows the template. -/
def readEnd : List Token → Except DeclarationError (List Token)
  | [] => .ok []
  | ts => readMark ";" ts

/-- Reads a declaration from its tokens. -/
def Declaration.ofTokens (ts : List Token) : Except DeclarationError Declaration := do
  let (attributes, r) ← readAttributes ts
  let (visibility, r) ← readVisibility r
  let (name, ts) ← readIdentifier r.tokens
  let ts ← readMark "=" ts
  let (template, ts) ← readTemplate ts
  let ts ← readEnd ts
  let ps ← Typed.parameters template
  match (r.behind ts).leftover? with
  | some e => .error e
  | none => .ok ⟨attributes, visibility, name, template, ps⟩

/-- Reads a declaration. -/
def Declaration.ofText (cs : List Char) : Except DeclarationError Declaration :=
  match tokens? cs with
  | none => .error .unreadable
  | some ts => Declaration.ofTokens ts

/-- Reads a declaration of a name and a template. -/
def Declaration.ofNameAndTemplate (name template : List Char) :
    Except DeclarationError Declaration :=
  match tokens? name with
  | none => .error .unreadable
  | some ts => Declaration.ofTokens (ts ++ [.sign '=' false, .literal template (some template)])

end RouteTemplate.Typed
