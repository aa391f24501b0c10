import RouteTemplate.Params
import RouteTemplate.Value

/-!
# RouteTemplate.Source — where the values of a path come from

A source gives values by name.  In a list of pairs the first pair of a name counts, in a map the last
one inserted; either way an absent value there hides all others.
-/

namespace RouteTemplate

/-- A source of named values. -/
inductive Source where
  /-- No values. -/
  | nothing
  /-- A list of pairs. -/
  | pairs (ps : List (List Char × Argument))
  /-- A map. -/
  | map (m : NameMap Argument)
  /-- The values of a match. -/
  | params (p : Params)

namespace Source

/-- The value that a source gives for a name. -/
def value? : Source → List Char → Option ParamValue
  | .nothing, _ => none
  | .pairs ps, name => (ps.lookup name).bind Argument.value?
  | .map m, name => (m.get? name).bind Argument.value?
  | .params p, name => (p.get? name).map .str

/-- The map into which pairs are inserted in order. -/
def ofInserts (ps : List (List Char × Argument)) : Source := .map (NameMap.ofList ps)

/-- Pairs whose arguments are turned into values at once, if all of them can be. -/
def convertPairs? : List (List Char × Argument) → Option (List (List Char × Argument))
  | [] => some []
  | (name, a) :: ps =>
    match a.converted?, convertPairs? ps with
    | some v, some converted => some ((name, .value v) :: converted)
    | _, _ => none

/-- The list of pairs whose arguments are turned into values at once, if all of them can be. -/
def ofConverted? (ps : List (List Char × Argument)) : Option Source :=
  (convertPairs? ps).map .pairs

@[simp] theorem value?_nothing (name : List Char) : Source.nothing.value? name = none := rfl

end Source

end RouteTemplate
