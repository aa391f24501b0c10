import RouteTemplate.Decimal.Binary
import RouteTemplate.IntType

/-!
# RouteTemplate.Load.Target — what a match can be loaded into

A match is loaded into a target.  Its values are flat texts, so a target is described on two levels:
a `Cell` is what a single text becomes, a `Target` is what all of them become together.  A target
that has parts keeps its description as a cell only as far as a refusal names it, since a single text
has no parts to fill it from.
-/

namespace RouteTemplate.Load

/-- A type of floating-point numbers. -/
inductive FloatType where
  | f32 | f64
deriving DecidableEq, Repr

/-- The format of a type of floating-point numbers. -/
def FloatType.format : FloatType → BinaryFormat
  | .f32 => .single
  | .f64 => .double

/-- The name of a type of floating-point numbers. -/
def FloatType.name : FloatType → String
  | .f32 => "f32"
  | .f64 => "f64"

/-- What a loaded value is. -/
inductive Loaded where
  | int (n : Int)
  | float (type : FloatType) (bits : Nat)
  | bool (b : Bool)
  | char (c : Char)
  | text (t : List Char)
  | bytes (bs : List UInt8)
  | unit
  | marker (name : List Char)
  | ignored
  | variant (index : Nat) (label : List Char)
  | absent
  | present (l : Loaded)
  | wrapped (l : Loaded)
  | list (ls : List Loaded)
  | map (es : List (Loaded × Loaded))
  | record (fs : List (List Char × Loaded))

/-! ### Cells -/

/-- What the variant of an enumeration carries. -/
inductive Payload where
  | nothing
  | one
  | several
  | fields
deriving DecidableEq, Repr

/-- A variant of an enumeration: its label in results, the spellings it is read from, and what it
carries. -/
structure Variant where
  label : List Char
  spellings : List (List Char)
  payload : Payload
deriving DecidableEq, Repr

/-- An enumeration; any other text becomes the variant with the label `other`, if there is one. -/
structure Enumeration where
  variants : List Variant
  other : Option (List Char)
deriving DecidableEq, Repr

/-- What a single text becomes. -/
inductive Cell where
  | int (type : IntType)
  /-- A type that nothing can be loaded into. -/
  | unsupported (name : String)
  | float (type : FloatType)
  | bool
  | char
  | text
  | bytes
  /-- Bytes without a zero byte. -/
  | cString
  /-- A number of eight bits other than zero. -/
  | nonZero
  | ignored
  | enumeration (e : Enumeration)
  | option (c : Cell)
  | wrapped (c : Cell)
  /-- A type with parts, described as a refusal names it. -/
  | structured (expected : String)
deriving DecidableEq, Repr

/-! ### Targets -/

/-- A field of a record. -/
structure Field where
  /-- The label in results. -/
  label : List Char
  /-- The name that the field has in messages. -/
  name : List Char
  /-- Other names that the field is read from. -/
  aliases : List (List Char)
  cell : Cell
  /-- The value of a field that is not given, unless its cell has one. -/
  fallback : Option Loaded

/-- Whether a field is read from a name. -/
def Field.answersTo (f : Field) (name : List Char) : Bool := name == f.name || f.aliases.contains name

/-- A record with named fields. -/
structure Record where
  name : String
  fields : List Field
  /-- Whether names of no field are refused. -/
  strict : Bool
  /-- The label of the map that collects the entries of no field, if there is one. -/
  rest : Option (List Char)

/-- How a sequence of fixed length is named. -/
inductive SequenceName where
  | tuple
  | array
  | named (name : String)
deriving DecidableEq, Repr

/-- What all values of a match become together. -/
inductive Target where
  /-- A single text. -/
  | one (c : Cell)
  | unit
  | marker (name : List Char)
  | ignored
  /-- A value that describes itself. -/
  | dynamic
  | wrapped (t : Target)
  | list (c : Cell)
  | set (c : Cell)
  | sequence (name : SequenceName) (cs : List Cell)
  | map (key value : Cell)
  | record (r : Record)
  /-- The first entry of a map that must have no other. -/
  | firstEntry

/-- The description of a sequence of fixed length inside a single text. -/
def SequenceName.description (length : Nat) : SequenceName → String
  | .tuple => s!"a tuple of size {length}"
  | .array => s!"an array of length {length}"
  | .named name => "tuple struct " ++ name

/-- The description of a sequence of fixed length that has too few values. -/
def SequenceName.shortfall (length : Nat) : SequenceName → String
  | .named name =>
    "tuple struct " ++ name ++ s!" with {length} element" ++ (if length = 1 then "" else "s")
  | n => n.description length

/-- A target inside a single text. -/
def Target.cell : Target → Cell
  | .one c => c
  | .unit => .structured "unit"
  | .marker name => .structured ("unit struct " ++ String.ofList name)
  | .ignored => .ignored
  | .dynamic => .text
  | .wrapped t => .wrapped t.cell
  | .list _ => .structured "a sequence"
  | .set _ => .structured "a sequence"
  | .sequence name cs => .structured (name.description cs.length)
  | .map _ _ => .structured "a map"
  | .record r => .structured ("struct " ++ r.name)
  | .firstEntry => .structured "a map"

end RouteTemplate.Load
