/-!
Regular expressions for the pattern predicates of statements.
-/

namespace RelPipe.Pattern

set_option autoImplicit false

def isMeta (c : Char) : Bool :=
  ['.', '^', '$', '*', '+', '?', '\x7b', '\x7d', '[', ']', '\\', '|', '(', ')'].contains c

def escapeChar (c : Char) : List Char := if isMeta c then ['\\', c] else [c]

def escape (text : List Char) : List Char := text.flatMap escapeChar

def likeChar (c : Char) : List Char :=
  if c = '%' then ['.', '*'] else if c = '_' then ['.'] else escapeChar c

/-- The regular expression for a LIKE pattern: `%` stands for any run of characters, `_` for
exactly one and every other character for itself. -/
def ofLike (pattern : List Char) : List Char := '^' :: pattern.flatMap likeChar ++ ['$']

end RelPipe.Pattern
