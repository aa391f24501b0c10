import RouteTemplate.Load.TypeName

/-!
# RouteTemplate.Load.Declared — a stock of declared targets

Records, enumerations and wrappers that targets are built from, each under its name.
-/

namespace RouteTemplate.Load

namespace Declared

/-- A field that is read from its label alone and has no fallback. -/
def field (label : String) (cell : Cell) : Field := ⟨label.toList, label.toList, [], cell, none⟩

/-- A variant that is read from its label alone. -/
def variant (label : String) (payload : Payload) : Variant := ⟨label.toList, [label.toList], payload⟩

/-- A record that takes no notice of names it does not know. -/
def record (name : String) (fields : List Field) : Record := ⟨name, fields, false, none⟩

def userPost : Record :=
  record "UserPost"
    [field "id" (.int .u64), ⟨"post_id".toList, "postId".toList, [], .text, none⟩]

def strict : Record := ⟨"Strict", [field "id" (.int .u8)], true, none⟩

def formats : Enumeration where
  variants := [⟨"Json".toList, ["json".toList], .nothing⟩, ⟨"Csv".toList, ["csv".toList], .nothing⟩]
  other := none

def shapes : Enumeration where
  variants :=
    [variant "Unit" .nothing, variant "New" .one, variant "Tup" .several, variant "Rec" .fields]
  other := none

def colors : Enumeration where
  variants :=
    [variant "Red" .nothing, ⟨"Green".toList, ["green".toList, "verde".toList], .nothing⟩]
  other := some "Other".toList

def solo : Enumeration := ⟨[variant "Only" .nothing], none⟩

def userId : Target := .wrapped (.one (.int .u32))

def pair : Target := .sequence (.named "Pair") [.text, .int .i32]

def marker : Target := .marker "Marker".toList

def exports : Record :=
  record "Export" [field "format" (.enumeration formats), field "limit" (.option (.int .u16))]

def aliased : Record :=
  record "Aliased"
    [⟨"id".toList, "id".toList, ["uid".toList, "userId".toList], .int .i32, none⟩,
      ⟨"tag".toList, "tag".toList, [], .text, some (.text [])⟩]

def numbers : Record :=
  record "Numbers"
    [field "a" (.int .i8), field "b" (.int .u16), field "c" (.float .f64), field "d" .bool,
      field "e" .char]

def nested : Record :=
  record "Nested"
    [field "id" (.int .u32), field "inner" userId.cell, field "unit" (.option Target.unit.cell)]

def deep : Record :=
  record "Deep" [field "id" (.int .u32), field "post" (Target.record userPost).cell]

def wrapping : Record :=
  record "Wrapped" [field "id" userId.cell, field "pair" (.option pair.cell)]

def lists : Record :=
  record "Lists" [field "id" (.int .u32), field "tags" (Target.list .text).cell]

def hasTuple : Record :=
  record "HasTuple" [field "pos" (tupleTarget [.one (.int .u8), .one (.int .u8)]).cell]

def hasMap : Record := record "HasMap" [field "extra" (Target.map .text .text).cell]

def hasMarker : Record := record "HasUnitStruct" [field "marker" marker.cell]

def hasEnumeration : Record := record "HasEnum" [field "shape" (.enumeration shapes)]

def flat : Record := ⟨"Flat", [field "id" .text], false, some "rest".toList⟩

end Declared

open Declared in
/-- The stock of declared targets. -/
def declaredTargets : Declarations :=
  (([userPost, strict, exports, aliased, numbers, nested, deep, wrapping, lists, hasTuple, hasMap,
      hasMarker, hasEnumeration, flat, record "NoFields" []]).map fun r => (r.name, Target.record r)) ++
  [("Marker", marker), ("UserId", userId), ("Name", .wrapped (.one .text)),
    ("WrapPost", .wrapped (.record userPost)), ("WrapVec", .wrapped (.list (.int .u8))),
    ("Pair", pair), ("Format", .one (.enumeration formats)), ("Shape", .one (.enumeration shapes)),
    ("Color", .one (.enumeration colors)), ("Solo", .one (.enumeration solo)),
    ("FirstEntry", .firstEntry), ("AsIdentifier", .firstEntry)]

end RouteTemplate.Load
