import RouteTemplate.Build
import RouteTemplate.Match
import RouteTemplate.Typed.Outline

/-!
# RouteTemplate.Typed.Route — routes with typed parameters

A typed route is what a declaration stands for: its template, a function that builds a path from one
value for each parameter, and a function that matches a path and gives the values by identifier.
-/

namespace RouteTemplate.Typed

/-- Why a typed route cannot do its work.  None of this happens to the route of a declaration that
is given one value for each parameter. -/
inductive RouteError where
  | compile (e : CompileError)
  | missing (e : BuildError)
deriving DecidableEq, Repr

/-- The text of a route error. -/
def RouteError.message : RouteError → String
  | .compile e => e.message
  | .missing e => "internal error: entered unreachable code: " ++ e.message

namespace Declaration

variable (d : Declaration)

/-- The compiled template of a route. -/
def compiled : Except RouteError Template :=
  match Template.compile d.template with
  | .error e => .error (.compile e)
  | .ok t => .ok t

/-- The path for one value for each parameter.  Without parameters it is the template itself. -/
def build (values : List ParamValue) : Except RouteError (List Char) :=
  match d.compiled with
  | .error e => .error e
  | .ok t =>
    if d.parameters.isEmpty then .ok d.template
    else
      match t.buildInOrder (values.map .value) with
      | .error e => .error (.missing e)
      | .ok path => .ok path

/-- One value for each identifier, if there are enough of them. -/
def assign : List (List Char) → List (List Char) → Option (List (List Char × List Char))
  | [], _ => some []
  | _ :: _, [] => none
  | i :: is, v :: vs => (assign is vs).map ((i, v) :: ·)

/-- The values of a path by identifier. -/
def fields? (path : List Char) : Except RouteError (Option (List (List Char × List Char))) :=
  match d.compiled with
  | .error e => .error e
  | .ok t => .ok ((t.params? path).bind fun p => assign d.idents p.values)

/-- The values of a match as they are shown for inspection. -/
def inspect (fields : List (List Char × List Char)) : String :=
  let name := String.ofList d.paramsName
  let shown := fields.map fun f => String.ofList f.1 ++ ": " ++ Quoted.quoted f.2
  if fields.isEmpty then name
  else name ++ " \x7b " ++ ", ".intercalate shown ++ " \x7d"

/-- Whether all values of a match are empty texts. -/
def isDefault (fields : List (List Char × List Char)) : Bool := fields.all fun f => f.2.isEmpty

/-- How many different matches paths have. -/
def distinct (paths : List (List Char)) : Except RouteError Nat :=
  match d.compiled with
  | .error e => .error e
  | .ok t =>
    let matched := paths.filterMap fun p => (t.params? p).bind fun q => assign d.idents q.values
    .ok matched.eraseDups.length

end Declaration

/-! ### Declared routes -/

/-- The declarations of a stock of routes, by name. -/
def declaredRoutes : List (String × String) :=
  [("UserPost", "/users/:id/posts/:postId"), ("Health", "/health"), ("Search", "/search/:query"),
    ("Archive", "/archive/:year/:month-name/:day_of_month/"), ("Item", "/items/:itemId"),
    ("Empty", ""), ("Root", "/"), ("Bare", ":only"), ("Meta", "/a.b/(c)/:id/[d]+*?"),
    ("Acronym", ":HTTPServer/:userID/:v2Name"), ("Accent", "/café/:naïveName/日本"),
    ("Wide", ":a/:b/:c/:d//:e")]

/-- The declared route with a name. -/
def declaredRoute? (name : String) : Option (Except DeclarationError Declaration) :=
  (declaredRoutes.lookup name).map fun template =>
    Declaration.ofNameAndTemplate name.toList template.toList

end RouteTemplate.Typed
