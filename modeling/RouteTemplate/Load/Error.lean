import RouteTemplate.Text.Quoted

/-!
# RouteTemplate.Load.Error — why a match cannot be loaded
-/

namespace RouteTemplate

/-- Why a match cannot be loaded into a target. -/
inductive LoadError where
  /-- A single value is wanted and there is another number of them. -/
  | notSingle (count : Nat)
  /-- A text is not one that the expected type is read from. -/
  | invalidValue (text : List Char) (expected : String)
  /-- The number zero, which is excluded. -/
  | zero (expected : String)
  /-- A text where a type with parts is expected. -/
  | invalidType (text : List Char) (expected : String)
  /-- The bare name of a variant that carries something. -/
  | bareVariant (expected : String)
  /-- A zero byte where none may be. -/
  | zeroByte (position : Nat)
  /-- A type that nothing can be loaded into. -/
  | unsupported (type : String)
  /-- Too few values for a sequence of fixed length. -/
  | tooFew (count : Nat) (expected : String)
  /-- Values left over after a container took what it holds. -/
  | tooMany (count taken : Nat) (container : String)
  | missingField (name : List Char)
  | duplicateField (name : List Char)
  | unknownField (name : List Char) (expected : List (List Char))
  | unknownVariant (name : List Char) (expected : List (List Char))
deriving DecidableEq, Repr

namespace LoadError

/-- A name between backquotes. -/
def ticked (name : List Char) : String := "\x60" ++ String.ofList name ++ "\x60"

/-- The names that are possible, or that there are none. -/
def alternatives (none : String) : List (List Char) → String
  | [] => none
  | [a] => "expected " ++ ticked a
  | [a, b] => "expected " ++ ticked a ++ " or " ++ ticked b
  | as => "expected one of " ++ ", ".intercalate (as.map ticked)

/-- The text of a load error. -/
def message : LoadError → String
  | .notSingle n => s!"invalid length {n}, expected exactly one path parameter"
  | .invalidValue t e => "invalid value: string " ++ Quoted.quoted t ++ ", expected " ++ e
  | .zero e => "invalid value: integer " ++ ticked ['0'] ++ ", expected " ++ e
  | .invalidType t e => "invalid type: string " ++ Quoted.quoted t ++ ", expected " ++ e
  | .bareVariant e => "invalid type: unit variant, expected " ++ e
  | .zeroByte p => s!"nul byte found in provided data at position: {p}"
  | .unsupported t => t ++ " is not supported"
  | .tooFew n e => s!"invalid length {n}, expected " ++ e
  | .tooMany n k c =>
    s!"invalid length {n}, expected {k} element" ++ (if k = 1 then "" else "s") ++ " in " ++ c
  | .missingField n => "missing field " ++ ticked n
  | .duplicateField n => "duplicate field " ++ ticked n
  | .unknownField n es =>
    "unknown field " ++ ticked n ++ ", " ++ alternatives "there are no fields" es
  | .unknownVariant n es =>
    "unknown variant " ++ ticked n ++ ", " ++ alternatives "there are no variants" es

end LoadError

end RouteTemplate
