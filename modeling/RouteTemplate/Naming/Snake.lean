import RouteTemplate.Unicode.Cluster
import RouteTemplate.Unicode.LetterCase

/-!
# RouteTemplate.Naming.Snake — snake case

A name is cut into words at separators and where the kind of its clusters changes; the words in lower
case, joined by underscores, are its snake case.
-/

namespace RouteTemplate.Naming

/-- The kind of a cluster, as far as words go. -/
inductive ClusterKind where
  | separator
  | upper
  | lower
  | digit
  | other
deriving DecidableEq, Repr

/-- Whether a cluster has two cases and is in upper case. -/
def isUpper (cluster : List Char) : Bool :=
  let up := Unicode.uppercase cluster
  up != Unicode.lowercase cluster && cluster == up

/-- Whether a cluster has two cases and is in lower case. -/
def isLower (cluster : List Char) : Bool :=
  let low := Unicode.lowercase cluster
  Unicode.uppercase cluster != low && cluster == low

/-- The kind of a cluster. -/
def kind (cluster : List Char) : ClusterKind :=
  if [['_'], ['-'], [' ']].contains cluster then .separator
  else if isUpper cluster then .upper
  else if isLower cluster then .lower
  else if cluster.all Char.isDigit then .digit
  else .other

/-- Whether a word ends between two neighbours. -/
def breaksBetween : ClusterKind → ClusterKind → Bool
  | .lower, .upper => true
  | .upper, .digit => true
  | .digit, .upper => true
  | .digit, .lower => true
  | .lower, .digit => true
  | _, _ => false

/-- Whether a word ends before the second of three neighbours, which then begins a capitalised word
behind an abbreviation. -/
def breaksAbbreviation : ClusterKind → ClusterKind → ClusterKind → Bool
  | .upper, .upper, .lower => true
  | _, _, _ => false

/-- Whether a word ends between `before` and the first of the clusters that follow. -/
def breaksBefore (before : ClusterKind) : List (List Char) → Bool
  | [] => false
  | [c] => breaksBetween before (kind c)
  | c :: d :: _ => breaksBetween before (kind c) || breaksAbbreviation before (kind c) (kind d)

/-- The words of the clusters after `before`, the word being read held in reverse. -/
def wordsFrom (before : ClusterKind) (current : List (List Char)) :
    List (List Char) → List (List Char)
  | [] => [current.reverse.flatten]
  | c :: cs =>
    let k := kind c
    if k = .separator then current.reverse.flatten :: wordsFrom k [] cs
    else if breaksBefore before (c :: cs) then current.reverse.flatten :: wordsFrom k [c] cs
    else wordsFrom k (c :: current) cs

/-- The words of a name. -/
def words (name : List Char) : List (List Char) :=
  (wordsFrom .other [] (Unicode.clusters name)).filter (!·.isEmpty)

/-- Words with underscores between them. -/
def joinWords : List (List Char) → List Char
  | [] => []
  | [w] => w
  | w :: w' :: ws => w ++ '_' :: joinWords (w' :: ws)

/-- A name in snake case. -/
def snakeCase (name : List Char) : List Char := joinWords ((words name).map Unicode.lowercase)

end RouteTemplate.Naming
