import RouteTemplate.Load.Target

/-!
# RouteTemplate.Load.TypeName — targets by name

A target is asked for by a type expression: a name, a name applied to others between angle brackets,
a tuple, an array with its length, or a reference.  Names that are not built in are looked up among
declared targets.
-/

namespace RouteTemplate.Load

/-- Targets that are declared under a name. -/
abbrev Declarations := List (String × Target)

/-- The target of a name without arguments. -/
def plainTarget? (declared : Declarations) (name : String) : Option Target :=
  match IntType.ofName? name with
  | some t => some (.one (.int t))
  | none =>
    match name with
    | "i128" | "u128" => some (.one (.unsupported name))
    | "f32" => some (.one (.float .f32))
    | "f64" => some (.one (.float .f64))
    | "bool" => some (.one .bool)
    | "char" => some (.one .char)
    | "str" | "String" => some (.one .text)
    | "CString" => some (.one .cString)
    | "NonZeroU8" => some (.one .nonZero)
    | "IgnoredAny" => some .ignored
    | "Value" => some .dynamic
    | _ => declared.lookup name

/-- The target of a name with arguments. -/
def appliedTarget? (name : String) (args : List Target) : Option Target :=
  match name, args with
  | "Option", [t] => some (.one (.option t.cell))
  | "Vec", [t] => some (.list t.cell)
  | "BTreeSet", [t] | "HashSet", [t] => some (.set t.cell)
  | "BTreeMap", [k, v] | "HashMap", [k, v] => some (.map k.cell v.cell)
  | _, _ => none

/-- The target of a tuple. -/
def tupleTarget : List Target → Target
  | [] => .unit
  | ts => .sequence .tuple (ts.map Target.cell)

/-- The name at the front of a text, and what follows it. -/
def spanName (cs : List Char) : List Char × List Char := cs.span fun c => c.isAlphanum || c == '_'

mutual

/-- Reads a type expression at the front of a text without blanks. -/
def readTarget? (declared : Declarations) : Nat → List Char → Option (Target × List Char)
  | 0, _ => none
  | fuel + 1, cs =>
    match cs with
    | '&' :: '[' :: 'u' :: '8' :: ']' :: rest => some (.one .bytes, rest)
    | '&' :: rest => readTarget? declared fuel rest
    | '(' :: rest =>
      (readTargets? declared ')' fuel rest).map fun (ts, rest) => (tupleTarget ts, rest)
    | '[' :: rest =>
      match readTarget? declared fuel rest with
      | some (t, ';' :: rest) =>
        let (ds, rest) := rest.span Char.isDigit
        match (String.ofList ds).toNat?, rest with
        | some n, ']' :: rest => some (.sequence .array (List.replicate n t.cell), rest)
        | _, _ => none
      | _ => none
    | cs =>
      let (name, rest) := spanName cs
      match rest with
      | '<' :: rest =>
        match readTargets? declared '>' fuel rest with
        | some (ts, rest) => (appliedTarget? (String.ofList name) ts).map fun t => (t, rest)
        | none => none
      | rest => (plainTarget? declared (String.ofList name)).map fun t => (t, rest)

/-- Reads type expressions with commas between them up to a closing character. -/
def readTargets? (declared : Declarations) (close : Char) :
    Nat → List Char → Option (List Target × List Char)
  | 0, _ => none
  | fuel + 1, cs =>
    match cs with
    | [] => none
    | c :: rest =>
      if c = close then some ([], rest)
      else
        match readTarget? declared fuel (c :: rest) with
        | some (t, ',' :: rest) =>
          (readTargets? declared close fuel rest).map fun (ts, rest) => (t :: ts, rest)
        | some (t, d :: rest) => if d = close then some ([t], rest) else none
        | _ => none

end

/-- The target of a type expression. -/
def Target.ofName? (declared : Declarations) (name : String) : Option Target :=
  let cs := name.toList.filter (· != ' ')
  match readTarget? declared (cs.length + 1) cs with
  | some (t, []) => some t
  | _ => none

end RouteTemplate.Load
