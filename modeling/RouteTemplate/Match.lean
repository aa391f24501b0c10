import RouteTemplate.Params
import RouteTemplate.Template.Pattern
import RouteTemplate.Text.Percent

/-!
# RouteTemplate.Match — matching paths

A template without parameters matches the path that equals its text; any other template matches as
its pattern does.  What the captures take is then decoded, and the first value that does not decode
is reported with its raw text.
-/

namespace RouteTemplate

/-- A captured value that does not decode. -/
structure DecodeError where
  name : List Char
  raw : List Char
  fault : Utf8.Fault
deriving DecidableEq, Repr

/-- The text of a decode error. -/
def DecodeError.message (e : DecodeError) : String :=
  "can not decode value " ++ Quoted.quoted e.raw ++ " of path param " ++ String.ofList e.name ++ ": "
    ++ e.fault.message

/-- Decodes named raw values from the first on. -/
def decodeEntries : List (List Char × List Char) → Except DecodeError (List (List Char × List Char))
  | [] => .ok []
  | (name, raw) :: rest =>
    match Percent.decode raw with
    | .error fault => .error ⟨name, raw, fault⟩
    | .ok value =>
      match decodeEntries rest with
      | .error e => .error e
      | .ok es => .ok ((name, value) :: es)

theorem map_fst_decodeEntries {es ds : List (List Char × List Char)}
    (h : decodeEntries es = .ok ds) : ds.map Prod.fst = es.map Prod.fst := by
  induction es generalizing ds with
  | nil => cases h; rfl
  | cons e es ih =>
    unfold decodeEntries at h
    split at h
    · simp at h
    split at h
    · simp at h
    rename_i ds' hds
    cases h
    simp [ih hds]

theorem map_fst_zip_sublist (ns vs : List (List Char)) :
    ((ns.zip vs).map Prod.fst).Sublist ns := by
  induction ns generalizing vs with
  | nil => simp
  | cons n ns ih =>
    cases vs with
    | nil => simp
    | cons v vs => simpa using ih vs

namespace Template

/-- The raw values of the parameters, if a path matches. -/
def captures (t : Template) (path : List Char) : Option (List (List Char)) :=
  if t.isStatic then (if path = t.text then some [] else none) else t.pattern.captures path

/-- Whether a path matches, whatever its values decode to. -/
def isMatch (t : Template) (path : List Char) : Bool :=
  if t.isStatic then path == t.text else t.pattern.accepts path

/-- The decoded values of a list of raw ones, under the names of the template. -/
def decode (t : Template) (raws : List (List Char)) : Except DecodeError Params :=
  match h : decodeEntries (t.names.zip raws) with
  | .error e => .error e
  | .ok es =>
    .ok ⟨es, by rw [map_fst_decodeEntries h]; exact t.nodup.sublist (map_fst_zip_sublist _ _)⟩

/-- The values of a path; none if it does not match, and an error if it matches but a value does not
decode. -/
def tryMatch (t : Template) (path : List Char) : Except DecodeError (Option Params) :=
  match t.captures path with
  | none => .ok none
  | some raws =>
    match t.decode raws with
    | .error e => .error e
    | .ok p => .ok (some p)

/-- The values of a path that matches and decodes. -/
def params? (t : Template) (path : List Char) : Option Params :=
  match t.tryMatch path with
  | .error _ => none
  | .ok p? => p?

end Template

end RouteTemplate
