import RouteTemplate.Build
import RouteTemplate.Match
import RouteTemplate.Uri

/-!
# RouteTemplate.Session — work on named templates, paths and results

A session keeps templates, paths and results of matches under names, each kind apart from the others.
A step reads what it needs from there, and may keep what it makes.  A step that fails leaves the
session as it was.
-/

namespace RouteTemplate

/-! ### Steps -/

/-- The values for a path: a source, or the match of a path with a template that is not kept. -/
inductive SourceChoice where
  | given (source : Source)
  | matched (template path : List Char)

/-- A path that is given or kept. -/
inductive PathChoice where
  | given (path : List Char)
  | kept (name : List Char)

/-- One step of a session.  Where a path can be kept, `keep` is the name for it. -/
inductive Step where
  /-- Compiles a text and keeps the template. -/
  | compile (name text : List Char)
  /-- Keeps a template under another name. -/
  | clone (template name : List Char)
  | build (template : List Char) (values : SourceChoice) (keep : Option (List Char))
  | buildInOrder (template : List Char) (values : List Argument) (keep : Option (List Char))
  /-- Builds a path from the result of a match. -/
  | rebuild (template result : List Char) (keep : Option (List Char))
  /-- Matches a path, or the path of a URI; a result is kept only if there is one. -/
  | matchPath (template : List Char) (path : PathChoice) (isUri : Bool) (keep : Option (List Char))
  /-- Looks at the result of a match. -/
  | read (result : List Char)
  /-- Compares templates. -/
  | compare (a b : List Char)
  /-- Compares results of matches. -/
  | compareResults (a b : List Char)
  /-- Counts the different templates. -/
  | count

/-- What matching a path shows: the path itself, whether it matches, and its values. -/
structure MatchReport where
  path : List Char
  isMatch : Bool
  outcome : Except DecodeError (Option Params)
  params? : Option Params

/-- What a step answers. -/
inductive Outcome where
  | template (t : Template)
  | path (p : List Char)
  | report (r : MatchReport)
  | result (p : Params)
  | same (b : Bool)
  | count (n : Nat)

/-- Why a step fails. -/
inductive StepError where
  /-- Nothing is kept under a name. -/
  | notKept (name : List Char)
  | compile (e : CompileError)
  | build (e : BuildError)
  | uri (e : Uri.UriError)
  /-- The values of a match are wanted, and there is no match. -/
  | noMatch

/-! ### Parts of a step -/

/-- The source that a choice stands for. -/
def SourceChoice.source : SourceChoice → Except StepError Source
  | .given s => .ok s
  | .matched template path =>
    match Template.compile template with
    | .error e => .error (.compile e)
    | .ok t =>
      match t.params? path with
      | none => .error .noMatch
      | some p => .ok (.params p)

/-- What matching a path shows. -/
def Template.report (t : Template) (path : List Char) : MatchReport :=
  ⟨path, t.isMatch path, t.tryMatch path, t.params? path⟩

/-- What matching a path, or the path of a URI, shows. -/
def Template.reportOf (t : Template) (isUri : Bool) (text : List Char) :
    Except StepError MatchReport :=
  if isUri then
    match Uri.path text with
    | .error e => .error (.uri e)
    | .ok path => .ok (t.report path)
  else .ok (t.report text)

/-- Whether templates are written alike. -/
def Template.same (a b : Template) : Bool := a.text == b.text

/-- The path for the values of a choice. -/
def Template.buildFrom (t : Template) (values : SourceChoice) : Except StepError (List Char) :=
  match values.source with
  | .error e => .error e
  | .ok s =>
    match t.build s with
    | .error e => .error (.build e)
    | .ok path => .ok path

/-- Inserts a value under a name, if there is one. -/
def NameMap.insertSome {α : Type} (m : NameMap α) (name : Option (List Char)) (value : α) :
    NameMap α :=
  match name with
  | none => m
  | some n => m.insert n value

/-- The value kept under a name. -/
def NameMap.find {α : Type} (m : NameMap α) (name : List Char) : Except StepError α :=
  match m.get? name with
  | none => .error (.notKept name)
  | some v => .ok v

/-! ### Sessions -/

/-- What a session keeps. -/
structure Session where
  templates : NameMap Template
  paths : NameMap (List Char)
  results : NameMap Params

namespace Session

/-- The session that keeps nothing. -/
def empty : Session := ⟨.empty, .empty, .empty⟩

/-- The path that a choice stands for. -/
def pathOf (s : Session) : PathChoice → Except StepError (List Char)
  | .given path => .ok path
  | .kept name => s.paths.find name

/-- Answers with a path, which is kept if there is a name for it. -/
def keepPath (s : Session) (keep : Option (List Char)) (path : List Char) : Session × Outcome :=
  (⟨s.templates, s.paths.insertSome keep path, s.results⟩, .path path)

/-- Answers with a template, which is kept. -/
def keepTemplate (s : Session) (name : List Char) (t : Template) : Session × Outcome :=
  (⟨s.templates.insert name t, s.paths, s.results⟩, .template t)

/-- Answers with what a match shows; its values, if there are any, are kept if there is a name for
them. -/
def keepReport (s : Session) (keep : Option (List Char)) (r : MatchReport) : Session × Outcome :=
  match r.params? with
  | none => (s, .report r)
  | some p => (⟨s.templates, s.paths, s.results.insertSome keep p⟩, .report r)

/-- The number of different templates. -/
def distinct (s : Session) : Nat :=
  (s.templates.entries.map fun e => e.2.text).eraseDups.length

/-- The session after a step, and what the step answers. -/
def step (s : Session) : Step → Except StepError (Session × Outcome)
  | .compile name text =>
    match Template.compile text with
    | .error e => .error (.compile e)
    | .ok t => .ok (s.keepTemplate name t)
  | .clone template name => do
    let t ← s.templates.find template
    return s.keepTemplate name t
  | .build template values keep => do
    let t ← s.templates.find template
    let path ← t.buildFrom values
    return s.keepPath keep path
  | .buildInOrder template values keep => do
    let t ← s.templates.find template
    match t.buildInOrder values with
    | .error e => .error (.build e)
    | .ok path => return s.keepPath keep path
  | .rebuild template result keep => do
    let p ← s.results.find result
    let t ← s.templates.find template
    let path ← t.buildFrom (.given (.params p))
    return s.keepPath keep path
  | .matchPath template path isUri keep => do
    let t ← s.templates.find template
    let text ← s.pathOf path
    let r ← t.reportOf isUri text
    return s.keepReport keep r
  | .read result => do
    let p ← s.results.find result
    return (s, .result p)
  | .compare a b => do
    let t ← s.templates.find a
    let u ← s.templates.find b
    return (s, .same (t.same u))
  | .compareResults a b => do
    let p ← s.results.find a
    let q ← s.results.find b
    return (s, .same (p.entries == q.entries))
  | .count => return (s, .count s.distinct)

/-- What the steps of a session answer. -/
def run (s : Session) : List Step → List (Except StepError Outcome)
  | [] => []
  | x :: xs =>
    match s.step x with
    | .error e => .error e :: s.run xs
    | .ok (s', o) => .ok o :: s'.run xs

end Session

end RouteTemplate
