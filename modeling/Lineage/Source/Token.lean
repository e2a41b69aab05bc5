/-!
Tokens of a source file and the faults that end its reading.
-/

namespace Lineage.Source

/-- The classes of tokens. Keywords are told apart from names; all punctuation is one class. -/
inductive TokenKind where
  | name
  | keyword
  | number
  | string
  | operator
  | newline
  | indent
  | dedent
  | endMarker
  deriving DecidableEq, Repr, Inhabited

/-- A token with its text, its lines, and the number of brackets that are open after it. -/
structure Token where
  kind : TokenKind
  text : String
  first : Nat
  last : Nat
  depth : Nat
  deriving Repr, Inhabited

namespace Token

/-- A token that ends a line or marks a change of indentation. -/
def isLayout (t : Token) : Bool :=
  match t.kind with
  | .newline | .indent | .dedent | .endMarker => true
  | _ => false

end Token

/-- The words that cannot be names. -/
def keywords : List String :=
  ["False", "None", "True", "and", "as", "assert", "async", "await", "break", "class", "continue",
    "def", "del", "elif", "else", "except", "finally", "for", "from", "global", "if", "import",
    "in", "is", "lambda", "nonlocal", "not", "or", "pass", "raise", "return", "try", "while",
    "with", "yield"]

/-- The words that are keywords in some places only. -/
def softKeywords : List String := ["_", "case", "match"]

/-- A rejected source text: what is wrong, and on which line. -/
structure SyntaxFault where
  message : String
  line : Nat
  deriving Repr, DecidableEq

end Lineage.Source
