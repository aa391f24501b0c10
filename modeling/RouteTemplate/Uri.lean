import RouteTemplate.Text.Utf8

/-!
# RouteTemplate.Uri — the path of a request URI

A request names its resource by a path with an optional query, by a full URI, by an authority alone,
or by `*`.  `Uri.path` checks such a text and gives the part of it that templates are matched
against.
-/

namespace RouteTemplate.Uri

/-- Why a text is no URI. -/
inductive UriError where
  | invalidCharacter
  | invalidAuthority
  | invalidFormat
  | emptyText
  | tooLong
  | schemeTooLong
deriving DecidableEq, Repr

/-- The text of an error. -/
def UriError.message : UriError → String
  | .invalidCharacter => "invalid uri character"
  | .invalidAuthority => "invalid authority"
  | .invalidFormat => "invalid format"
  | .emptyText => "empty string"
  | .tooLong => "uri too long"
  | .schemeTooLong => "scheme too long"

/-- The greatest length of a URI in bytes. -/
def maxLength : Nat := 65534

/-- The greatest length of a scheme in bytes. -/
def maxSchemeLength : Nat := 64

/-! ### Scheme -/

/-- Characters of a scheme. -/
def isSchemeChar (c : Char) : Bool := c.isAlphanum || c ∈ ['+', '-', '.', '~']

/-- The text behind a prefix, letters of either case counting as equal. -/
def afterPrefix? (expected : List Char) (cs : List Char) : Option (List Char) :=
  if (cs.take expected.length).map Char.toLower = expected then some (cs.drop expected.length)
  else none

/-- The text behind a scheme and its `://`, if there is a scheme. -/
def afterScheme? (cs : List Char) : Except UriError (Option (List Char)) :=
  match afterPrefix? "http://".toList cs with
  | some rest => .ok (some rest)
  | none =>
    match afterPrefix? "https://".toList cs with
    | some rest => .ok (some rest)
    | none =>
      if (Utf8.bytes cs).length ≤ 3 then .ok none
      else
        let (scheme, rest) := cs.span isSchemeChar
        match rest with
        | ':' :: '/' :: '/' :: rest =>
          if maxSchemeLength < scheme.length then .error .schemeTooLong else .ok (some rest)
        | _ => .ok none

/-! ### Authority -/

/-- Characters of an authority other than the percent sign. -/
def isAuthorityChar (c : Char) : Bool :=
  c.isAlphanum ||
    c ∈ ['!', '$', '&', '\'', '(', ')', '*', '+', ',', '-', '.', ':', ';', '=', '@', '[', ']', '_', '~']

/-- Whether a character ends an authority. -/
def endsAuthority (c : Char) : Bool := c == '/' || c == '?' || c == '#'

/-- What has been seen of an authority.  User information and bracketed addresses may hold colons and
percent signs, which are forgotten at their end. -/
structure AuthorityState where
  colons : Nat
  opened : Bool
  closed : Bool
  percent : Bool
  endsWithAt : Bool

/-- The state before an authority. -/
def AuthorityState.start : AuthorityState := ⟨0, false, false, false, false⟩

/-- The greatest number of colons in a row of groups. -/
def maxColons : Nat := 8

/-- The state after one more character. -/
def AuthorityState.next (s : AuthorityState) (c : Char) : Except UriError AuthorityState :=
  let s := { s with endsWithAt := c == '@' }
  if c = ':' then
    if maxColons ≤ s.colons then .error .invalidAuthority else .ok { s with colons := s.colons + 1 }
  else if c = '[' then
    if s.percent || s.opened then .error .invalidAuthority else .ok { s with opened := true }
  else if c = ']' then
    if !s.opened || s.closed then .error .invalidAuthority
    else .ok { s with closed := true, colons := 0, percent := false }
  else if c = '@' then .ok { s with colons := 0, percent := false }
  else if c = '%' then .ok { s with percent := true }
  else if isAuthorityChar c then .ok s
  else .error .invalidCharacter

/-- Whether an authority may end. -/
def AuthorityState.complete (s : AuthorityState) : Bool :=
  s.opened == s.closed && s.colons ≤ 1 && !s.endsWithAt && !s.percent

/-- The text behind an authority. -/
def afterAuthority (s : AuthorityState) : List Char → Except UriError (List Char)
  | [] => if s.complete then .ok [] else .error .invalidAuthority
  | c :: cs =>
    if endsAuthority c then (if s.complete then .ok (c :: cs) else .error .invalidAuthority)
    else
      match s.next c with
      | .error e => .error e
      | .ok s' => afterAuthority s' cs

/-! ### Path and query -/

/-- Characters of a path. -/
def isPathChar (c : Char) : Bool :=
  let n := c.toNat
  n = 0x21 || n = 0x22 || (0x24 ≤ n && n ≤ 0x3B) || n = 0x3D || (0x40 ≤ n && n ≤ 0x5F) ||
    (0x61 ≤ n && n ≤ 0x7E) || 0x80 ≤ n

/-- Characters of a query. -/
def isQueryChar (c : Char) : Bool :=
  let n := c.toNat
  n = 0x21 || (0x24 ≤ n && n ≤ 0x3B) || n = 0x3D || (0x3F ≤ n && n ≤ 0x7E) || 0x80 ≤ n

/-- Whether a query is well formed up to the fragment, which may be anything. -/
def isQuery : List Char → Bool
  | [] => true
  | c :: cs => c == '#' || (isQueryChar c && isQuery cs)

/-- The path at the front of a text; a query and a fragment may follow. -/
def pathBeforeQuery : List Char → Except UriError (List Char)
  | [] => .ok []
  | c :: cs =>
    if c = '?' then (if isQuery cs then .ok [] else .error .invalidCharacter)
    else if c = '#' then .ok []
    else if isPathChar c then
      match pathBeforeQuery cs with
      | .error e => .error e
      | .ok p => .ok (c :: p)
    else .error .invalidCharacter

/-! ### URI -/

/-- The path of a full URI or of an authority alone. -/
def pathOfFull (cs : List Char) : Except UriError (List Char) :=
  match afterScheme? cs with
  | .error e => .error e
  | .ok none =>
    match afterAuthority .start cs with
    | .error e => .error e
    | .ok [] => .ok []
    | .ok _ => .error .invalidFormat
  | .ok (some []) => .error .emptyText
  | .ok (some (c :: rest)) =>
    match afterAuthority .start (c :: rest) with
    | .error e => .error e
    | .ok tail =>
      if endsAuthority c then .error .invalidFormat
      else
        match pathBeforeQuery tail with
        | .error e => .error e
        | .ok [] => .ok ['/']
        | .ok p => .ok p

/-- The path of a request URI. -/
def path (cs : List Char) : Except UriError (List Char) :=
  if maxLength < (Utf8.bytes cs).length then .error .tooLong
  else
    match cs with
    | [] => .error .emptyText
    | ['*'] => .ok ['*']
    | ['?'] | ['#'] => .error .invalidCharacter
    | '/' :: rest => pathBeforeQuery ('/' :: rest)
    | cs => pathOfFull cs

end RouteTemplate.Uri
