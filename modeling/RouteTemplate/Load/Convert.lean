import RouteTemplate.Load.Cell
import RouteTemplate.Params

/-!
# RouteTemplate.Load.Convert — loading a match

Sequences are filled by place, records and maps by name, and a single cell from the only value.  The
values are converted in the order of the template, so the first one at fault decides the error; what
can only be known at the end (values left over, fields not given) is reported after that.
-/

namespace RouteTemplate.Load

/-! ### Order of keys -/

/-- What the order of a key goes by. -/
def Loaded.orderKey : Loaded → List Int
  | .int n => [n]
  | .bool b => [if b then 1 else 0]
  | .char c => [c.toNat]
  | .text t => t.map fun c => (c.toNat : Int)
  | .bytes bs => bs.map fun b => (b.toNat : Int)
  | .variant i _ => [i]
  | .absent => [0]
  | .present l => 1 :: l.orderKey
  | .wrapped l => l.orderKey
  | _ => []

/-- Puts an item into a list that its keys order; an item with the same key gives way. -/
def insertByKey {α : Type} (key : α → List Int) (x : α) : List α → List α
  | [] => [x]
  | y :: ys =>
    if key x = key y then x :: ys
    else if key x < key y then x :: y :: ys
    else y :: insertByKey key x ys

/-- The items in the order of their keys, the last item of each key. -/
def orderedBy {α : Type} (key : α → List Int) (xs : List α) : List α :=
  xs.foldl (fun ys x => insertByKey key x ys) []

/-! ### Parts of a target -/

/-- The only value of a match. -/
def single (p : Params) : Except LoadError (List Char) :=
  match p.entries with
  | [e] => .ok e.2
  | es => .error (.notSingle es.length)

/-- All values, each as the same cell. -/
def loadAll (c : Cell) : List (List Char) → Except LoadError (List Loaded)
  | [] => .ok []
  | v :: vs =>
    match c.load v with
    | .error e => .error e
    | .ok l =>
      match loadAll c vs with
      | .error e => .error e
      | .ok ls => .ok (l :: ls)

/-- As many values as there are cells, each as its cell, and the values left over; none if there are
too few values, all of which load. -/
def loadEach : List Cell → List (List Char) →
    Except LoadError (Option (List Loaded × List (List Char)))
  | [], vs => .ok (some ([], vs))
  | _ :: _, [] => .ok none
  | c :: cs, v :: vs =>
    match c.load v with
    | .error e => .error e
    | .ok l =>
      match loadEach cs vs with
      | .error e => .error e
      | .ok none => .ok none
      | .ok (some (ls, rest)) => .ok (some (l :: ls, rest))

/-- A sequence of fixed length. -/
def loadSequence (name : SequenceName) (cs : List Cell) (vs : List (List Char)) :
    Except LoadError Loaded :=
  match loadEach cs vs with
  | .error e => .error e
  | .ok none => .error (.tooFew vs.length (name.shortfall cs.length))
  | .ok (some (ls, [])) => .ok (.list ls)
  | .ok (some (_, _ :: _)) => .error (.tooMany vs.length cs.length "sequence")

/-- All entries, name and value each as a cell. -/
def loadEntries (key value : Cell) :
    List (List Char × List Char) → Except LoadError (List (Loaded × Loaded))
  | [] => .ok []
  | (n, v) :: es =>
    match key.load n with
    | .error e => .error e
    | .ok k =>
      match value.load v with
      | .error e => .error e
      | .ok l =>
        match loadEntries key value es with
        | .error e => .error e
        | .ok ls => .ok ((k, l) :: ls)

/-! ### Records -/

/-- The field that is read from a name. -/
def Record.field? (r : Record) (name : List Char) : Option Field :=
  r.fields.find? (·.answersTo name)

/-- The fields that entries give, after those in `found`, by label. -/
def Record.collect (r : Record) (found : List (List Char × Loaded)) :
    List (List Char × List Char) → Except LoadError (List (List Char × Loaded))
  | [] => .ok found
  | (n, v) :: es =>
    match r.field? n with
    | none =>
      if r.strict then
        .error (.unknownField n (r.fields.flatMap fun f => f.name :: f.aliases))
      else r.collect found es
    | some f =>
      if (found.lookup f.label).isSome then .error (.duplicateField f.name)
      else
        match f.cell.load v with
        | .error e => .error e
        | .ok l => r.collect (found ++ [(f.label, l)]) es

/-- The value of a field, given or not. -/
def Field.complete (f : Field) (found : List (List Char × Loaded)) : Except LoadError Loaded :=
  match found.lookup f.label with
  | some l => .ok l
  | none =>
    match f.fallback with
    | some l => .ok l
    | none =>
      match f.cell.whenMissing with
      | some l => .ok l
      | none => .error (.missingField f.name)

/-- All fields with their values, in the order of the record. -/
def completeAll (found : List (List Char × Loaded)) :
    List Field → Except LoadError (List (List Char × Loaded))
  | [] => .ok []
  | f :: fs =>
    match f.complete found with
    | .error e => .error e
    | .ok l =>
      match completeAll found fs with
      | .error e => .error e
      | .ok ls => .ok ((f.label, l) :: ls)

/-- The entries that belong to no field, as a map in the order of their names. -/
def Record.leftover (r : Record) (es : List (List Char × List Char)) : Loaded :=
  let others := es.filter fun e => (r.field? e.1).isNone
  .map (orderedBy (fun e => e.1.orderKey) (others.map fun e => (.text e.1, .text e.2)))

/-- Loads a record from entries. -/
def Record.load (r : Record) (es : List (List Char × List Char)) : Except LoadError Loaded :=
  match r.collect [] es with
  | .error e => .error e
  | .ok found =>
    match completeAll found r.fields with
    | .error e => .error e
    | .ok fs =>
      match r.rest with
      | none => .ok (.record fs)
      | some label => .ok (.record (fs ++ [(label, r.leftover es)]))

/-! ### Targets -/

/-- The first of at most one entry. -/
def loadFirst : List (List Char × List Char) → Except LoadError Loaded
  | [] => .ok .absent
  | [(n, v)] => .ok (.present (.list [.text n, .text v]))
  | es => .error (.tooMany es.length 1 "map")

/-- Loads a match into a target. -/
def Target.load (p : Params) : Target → Except LoadError Loaded
  | .one (.unsupported name) => .error (.unsupported name)
  | .one c =>
    match single p with
    | .error e => .error e
    | .ok v => c.load v
  | .unit => .ok .unit
  | .marker name => .ok (.marker name)
  | .ignored => .ok .ignored
  | .dynamic => (loadEntries .text .text p.entries).map fun es => .map (orderedBy (·.1.orderKey) es)
  | .wrapped t => (t.load p).map .wrapped
  | .list c => (loadAll c p.values).map .list
  | .set c => (loadAll c p.values).map fun ls => .list (orderedBy Loaded.orderKey ls)
  | .sequence name cs => loadSequence name cs p.values
  | .map k v => (loadEntries k v p.entries).map fun es => .map (orderedBy (·.1.orderKey) es)
  | .record r => r.load p.entries
  | .firstEntry => loadFirst p.entries

end RouteTemplate.Load
