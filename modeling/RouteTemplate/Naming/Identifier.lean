import RouteTemplate.Unicode.Property

/-!
# RouteTemplate.Naming.Identifier — identifiers

An identifier begins with a letter or an underscore and goes on with letters, digits and marks.  The
lone underscore and the keywords are no identifiers.
-/

namespace RouteTemplate.Naming

/-- Whether a character may begin an identifier. -/
def isIdentStart (c : Char) : Bool := c == '_' || Unicode.isXidStart c

/-- Whether a character may continue an identifier. -/
def isIdentContinue (c : Char) : Bool := Unicode.isXidContinue c

/-- Whether a text has the form of an identifier, keywords included. -/
def isWord : List Char → Bool
  | [] => false
  | c :: cs => isIdentStart c && cs.all isIdentContinue

/-- The words that are not free for use. -/
def keywords : List (List Char) :=
  ["abstract", "as", "async", "await", "become", "box", "break", "const", "continue", "crate", "do",
    "dyn", "else", "enum", "extern", "false", "final", "fn", "for", "if", "impl", "in", "let", "loop",
    "macro", "match", "mod", "move", "mut", "override", "priv", "pub", "ref", "return", "Self", "self",
    "static", "struct", "super", "trait", "true", "try", "type", "typeof", "unsafe", "unsized", "use",
    "virtual", "where", "while", "yield"].map String.toList

/-- Whether a word is a keyword or the lone underscore. -/
def isReserved (word : List Char) : Bool := word == ['_'] || keywords.contains word

/-- Whether a text is an identifier. -/
def isIdentifier (cs : List Char) : Bool := isWord cs && !isReserved cs

end RouteTemplate.Naming
