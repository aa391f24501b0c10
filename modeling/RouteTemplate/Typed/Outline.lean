import RouteTemplate.Typed.Declaration

/-!
# RouteTemplate.Typed.Outline — what a declaration generates

A declaration generates a structure for the route, a structure for the values of a match, and the
implementations that go with them.  The outline lists them with their visible parts.
-/

namespace RouteTemplate.Typed

/-- An attribute in an outline, as its path and its items. -/
abbrev AttributeOutline := List (List Char)

/-- A member of an implementation. -/
inductive Member where
  | text (name : String) (value : List Char)
  | texts (name : String) (values : List (List Char))
  | function (name visibility : String) (lifetimes types : Nat) (args : List (List Char))
deriving DecidableEq, Repr

/-- A generated item. -/
inductive Item where
  | record (name : List Char) (visibility : List Char) (attributes : List AttributeOutline)
      (fields : List (String × List Char))
  | implementation (trait : Option String) (type : List Char) (members : List Member)
deriving DecidableEq, Repr

/-- An attribute as the outline shows it; one that is set to a text is shown as documentation. -/
def Attribute.outline (a : Attribute) : AttributeOutline :=
  match a.content with
  | .nothing => [a.path.spacedText]
  | .value => [a.path.spacedText]
  | .text t => ["doc".toList, t]
  | .items is => a.path.spacedText :: is

/-- The attribute that derives implementations. -/
def derives (traits : List String) : AttributeOutline := ("derive" :: traits).map String.toList

/-- The name of a declaration without the mark of a raw word. -/
def plainName : List Char → List Char
  | 'r' :: '#' :: name => name
  | name => name

/-- The receiver of a function. -/
def receiver : List Char := "self".toList

namespace Declaration

variable (d : Declaration)

/-- The name of the structure that holds the values of a match. -/
def paramsName : List Char := plainName d.name ++ "Params".toList

/-- The identifiers of the parameters. -/
def idents : List (List Char) := d.parameters.map Parameter.ident

/-- The structure of the route. -/
def routeItem : Item :=
  .record d.name d.visibility.text
    (d.attributes.map Attribute.outline ++ [derives ["Debug", "Clone", "PartialEq", "Eq", "Hash"]])
    [("", "inner".toList)]

/-- The structure of the values. -/
def paramsItem : Item :=
  .record d.paramsName d.visibility.text
    [["doc".toList, "Parameters extracted by [\x60".toList ++ d.name ++ "::matches\x60].".toList],
      derives ["Debug", "Clone", "Default", "PartialEq", "Eq", "Hash"]]
    (d.idents.map fun i => ("pub", i))

/-- The implementation of the route. -/
def implementationItem : Item :=
  .implementation none d.name
    [.text "TEMPLATE" d.template,
      .texts "PARAM_NAMES" (d.parameters.map Parameter.name),
      .function "new" "pub" 0 0 [],
      .function "template" "pub" 0 0 [receiver],
      .function "build" "pub" (if d.parameters.isEmpty then 0 else 1) 0 (receiver :: d.idents),
      .function "matches" "pub" 0 1 [receiver, "path".toList]]

/-- The items that a declaration generates, in order. -/
def outline : List Item :=
  [d.routeItem, d.paramsItem, d.implementationItem,
    .implementation (some "Default") d.name [.function "default" "" 0 0 []],
    .implementation (some "AsRef") d.name [.function "as_ref" "" 0 0 [receiver]]]

end Declaration

end RouteTemplate.Typed
