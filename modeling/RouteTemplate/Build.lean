import RouteTemplate.Source
import RouteTemplate.Template.Basic
import RouteTemplate.Text.Percent

/-!
# RouteTemplate.Build — building paths

A path is built by writing every literal segment as it is and every parameter segment as the
percent-encoded text of its value.  Values are looked up by name in a source, or taken one by one in
the order of the parameters.
-/

namespace RouteTemplate

/-- A parameter that has no value. -/
structure BuildError where
  name : List Char
deriving DecidableEq, Repr

/-- The text of a build error. -/
def BuildError.message (e : BuildError) : String := "Missing path param: " ++ String.ofList e.name

/-- The text of a value in a path. -/
def ParamValue.encoded (v : ParamValue) : List Char := Percent.encode v.text

/-- The segments of a path for values by name. -/
def fillByName (value? : List Char → Option ParamValue) :
    List Segment → Except BuildError (List (List Char))
  | [] => .ok []
  | .literal t :: ss =>
    match fillByName value? ss with
    | .error e => .error e
    | .ok ps => .ok (t :: ps)
  | .param n :: ss =>
    match value? n with
    | none => .error ⟨n⟩
    | some v =>
      match fillByName value? ss with
      | .error e => .error e
      | .ok ps => .ok (v.encoded :: ps)

/-- The segments of a path for values in the order of the parameters.  Values left over do not
matter. -/
def fillInOrder : List Segment → List Argument → Except BuildError (List (List Char))
  | [], _ => .ok []
  | .literal t :: ss, as =>
    match fillInOrder ss as with
    | .error e => .error e
    | .ok ps => .ok (t :: ps)
  | .param n :: _, [] => .error ⟨n⟩
  | .param n :: ss, a :: as =>
    match a.value? with
    | none => .error ⟨n⟩
    | some v =>
      match fillInOrder ss as with
      | .error e => .error e
      | .ok ps => .ok (v.encoded :: ps)

namespace Template

/-- The path for the values of a source, or the first parameter that has none. -/
def build (t : Template) (source : Source) : Except BuildError (List Char) :=
  match fillByName source.value? t.segments with
  | .error e => .error e
  | .ok ps => .ok (joinPieces ps)

/-- The path for values in the order of the parameters, or the first parameter that has none. -/
def buildInOrder (t : Template) (values : List Argument) : Except BuildError (List Char) :=
  match fillInOrder t.segments values with
  | .error e => .error e
  | .ok ps => .ok (joinPieces ps)

end Template

end RouteTemplate
