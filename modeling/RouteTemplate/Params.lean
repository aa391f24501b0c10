import RouteTemplate.NameMap
import RouteTemplate.Text.Quoted

/-!
# RouteTemplate.Params — the values of a match

The result of a match holds the decoded value of each parameter, in the order of the template, under
names that are all different.  It can be read by name, by place, entry by entry, and as a map.
-/

namespace RouteTemplate

/-- The named values of a match. -/
structure Params where
  entries : List (List Char × List Char)
  nodup : (entries.map Prod.fst).Nodup
deriving DecidableEq

/-- Why a value cannot be read. -/
inductive AccessError where
  /-- No parameter has the name. -/
  | unknownName
  /-- No parameter has the place. -/
  | outOfBounds (length index : Nat)
deriving DecidableEq, Repr

/-- The text of an access error. -/
def AccessError.message : AccessError → String
  | .unknownName => "Value for parameter is not available"
  | .outOfBounds length index =>
    s!"index out of bounds: the len is {length} but the index is {index}"

namespace Params

@[ext] theorem ext {p q : Params} (h : p.entries = q.entries) : p = q := by
  cases p; cases q; cases h; rfl

theorem nodup_names_nil : (([] : List (List Char × List Char)).map Prod.fst).Nodup :=
  List.nodup_nil

/-- The match without parameters. -/
def empty : Params := ⟨[], nodup_names_nil⟩

/-- The number of parameters. -/
def length (p : Params) : Nat := p.entries.length

/-- Whether there are no parameters. -/
def isEmpty (p : Params) : Bool := p.entries.isEmpty

/-- The names, in the order of the template. -/
def names (p : Params) : List (List Char) := p.entries.map Prod.fst

/-- The values, in the order of the template. -/
def values (p : Params) : List (List Char) := p.entries.map Prod.snd

/-- The value of a name. -/
def get? (p : Params) (name : List Char) : Option (List Char) := p.entries.lookup name

/-- Whether there is a parameter with a name. -/
def contains (p : Params) (name : List Char) : Bool := (p.get? name).isSome

/-- The value of a name that has to be there. -/
def get (p : Params) (name : List Char) : Except AccessError (List Char) :=
  match p.get? name with
  | some v => .ok v
  | none => .error .unknownName

/-- The value at a place that has to be there. -/
def getAt (p : Params) (i : Nat) : Except AccessError (List Char) :=
  match p.values[i]? with
  | some v => .ok v
  | none => .error (.outOfBounds p.length i)

/-- The values as a map. -/
def toMap (p : Params) : NameMap (List Char) := NameMap.ofList p.entries

/-- Whether the entries are the given pairs, in the given order. -/
def hasPairs (p : Params) (pairs : List (List Char × List Char)) : Bool :=
  p.length == pairs.length && (p.entries.zip pairs).all fun e => e.1.1 == e.2.1 && e.1.2 == e.2.2

/-- The entries as they are shown for inspection. -/
def inspect (p : Params) : String :=
  let items := p.entries.map fun e => "(" ++ Quoted.quoted e.1 ++ ", " ++ Quoted.quoted e.2 ++ ")"
  "Params \x7b items: [" ++ ", ".intercalate items ++ "] \x7d"

/-! ### Reading entry by entry -/

/-- A reading in progress: the entries still to come. -/
structure Cursor where
  rest : List (List Char × List Char)

/-- The start of a reading. -/
def cursor (p : Params) : Cursor := ⟨p.entries⟩

/-- How many entries are still to come. -/
def Cursor.remaining (c : Cursor) : Nat := c.rest.length

/-- The next entry, and the reading after it. -/
def Cursor.next (c : Cursor) : Option (List Char × List Char) × Cursor :=
  match c.rest with
  | [] => (none, c)
  | e :: es => (some e, ⟨es⟩)

/-- All entries to come, each with the number that remained before it was read. -/
def Cursor.countdown : List (List Char × List Char) → List (Nat × List Char × List Char)
  | [] => []
  | e :: es => ((Cursor.mk (e :: es)).remaining, e) :: Cursor.countdown es

/-- The reading after a number of steps. -/
def Cursor.skip (c : Cursor) : Nat → Cursor
  | 0 => c
  | n + 1 => Cursor.skip c.next.2 n

end Params

end RouteTemplate
