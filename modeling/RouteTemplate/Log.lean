import RouteTemplate.Match

/-!
# RouteTemplate.Log — what is logged

Compiling a template leaves a record of how it will be matched, and a path that matches but does not
decode leaves a record of why it counts as no match.
-/

namespace RouteTemplate

/-- How much a record matters. -/
inductive LogLevel where
  | trace
  | debug
deriving DecidableEq, Repr

/-- A record of the log. -/
structure LogRecord where
  level : LogLevel
  target : String
  message : String
deriving DecidableEq, Repr

/-- The name of a level. -/
def LogLevel.name : LogLevel → String
  | .trace => "TRACE"
  | .debug => "DEBUG"

/-- The target of all records. -/
def logTarget : String := "path_template::template"

namespace Template

/-- The record of a compiled template. -/
def compileRecord (t : Template) : LogRecord where
  level := .trace
  target := logTarget
  message :=
    if t.isStatic then "path template " ++ Quoted.quoted t.text ++ " is static"
    else
      "path template " ++ Quoted.quoted t.text ++ " compiled to pattern "
        ++ Quoted.quoted t.pattern.text

/-- The records of matching a path. -/
def matchRecords (t : Template) (path : List Char) : List LogRecord :=
  match t.tryMatch path with
  | .ok _ => []
  | .error e => [⟨.debug, logTarget, "treating undecodable path as a non-match: " ++ e.message⟩]

end Template

/-- What compiling a text and then matching paths leaves behind: whether it compiled, which paths
matched, and the records in order. -/
def logged (text : List Char) (paths : List (List Char)) : Bool × List Bool × List LogRecord :=
  match Template.compile text with
  | .error _ => (false, [], [])
  | .ok t =>
    (true, paths.map fun p => (t.params? p).isSome,
      t.compileRecord :: paths.flatMap t.matchRecords)

end RouteTemplate
