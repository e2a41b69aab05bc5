import Lineage.Element.LineRange

/-!
The abstract syntax of a source file: expressions, patterns and statements of Python, each with the
lines it stands on. Operators, parameter lists, comprehensions, items of `with` and cases of `match`
have no lines of their own.
-/

namespace Lineage.Source

/-- `and` and `or`. -/
inductive BoolOp where
  | and
  | or
  deriving DecidableEq, Repr

/-- Operators between two operands that give a value. -/
inductive BinaryOp where
  | add
  | sub
  | mult
  | matMult
  | div
  | mod
  | pow
  | lShift
  | rShift
  | bitOr
  | bitXor
  | bitAnd
  | floorDiv
  deriving DecidableEq, Repr

/-- Operators in front of one operand. -/
inductive UnaryOp where
  | invert
  | not
  | plus
  | minus
  deriving DecidableEq, Repr

/-- Comparisons. -/
inductive CompareOp where
  | eq
  | notEq
  | lt
  | ltE
  | gt
  | gtE
  | is
  | isNot
  | isIn
  | notIn
  deriving DecidableEq, Repr

/-- A constant. The text of a string is a list of code points, which may be surrogates when they
come from escapes. A complex constant has no real part. -/
inductive Literal where
  | none
  | bool (b : Bool)
  | ellipsis
  | int (n : Nat)
  | float (x : Float)
  | imaginary (x : Float)
  | text (points : List Nat)
  | bytes (bytes : List UInt8)

mutual

/-- An expression. -/
inductive Expr where
  | boolOp (lines : LineRange) (op : BoolOp) (values : List Expr)
  | named (lines : LineRange) (target value : Expr)
  | binary (lines : LineRange) (left : Expr) (op : BinaryOp) (right : Expr)
  | unary (lines : LineRange) (op : UnaryOp) (operand : Expr)
  | lambda (lines : LineRange) (params : Params) (body : Expr)
  | ifExp (lines : LineRange) (test body orElse : Expr)
  | dict (lines : LineRange) (keys : List (Option Expr)) (values : List Expr)
  | set (lines : LineRange) (elements : List Expr)
  | listComp (lines : LineRange) (element : Expr) (generators : List Comprehension)
  | setComp (lines : LineRange) (element : Expr) (generators : List Comprehension)
  | dictComp (lines : LineRange) (key value : Expr) (generators : List Comprehension)
  | generator (lines : LineRange) (element : Expr) (generators : List Comprehension)
  | await (lines : LineRange) (value : Expr)
  | yield (lines : LineRange) (value : Option Expr)
  | yieldFrom (lines : LineRange) (value : Expr)
  | compare (lines : LineRange) (left : Expr) (ops : List CompareOp) (comparators : List Expr)
  | call (lines : LineRange) (func : Expr) (args : List Expr) (keywords : List Keyword)
  | formatted (lines : LineRange) (value : Expr) (conversion : Option Char) (spec : Option Expr)
  | joined (lines : LineRange) (values : List Expr)
  | constant (lines : LineRange) (value : Literal) (unicodeMark : Bool)
  | attr (lines : LineRange) (value : Expr) (name : String)
  | subscript (lines : LineRange) (value index : Expr)
  | starred (lines : LineRange) (value : Expr)
  | name (lines : LineRange) (id : String)
  | list (lines : LineRange) (elements : List Expr)
  | tuple (lines : LineRange) (elements : List Expr)
  | slice (lines : LineRange) (lower upper step : Option Expr)

/-- One `for` of a comprehension with its conditions. -/
inductive Comprehension where
  | mk (target source : Expr) (conditions : List Expr) (isAsync : Bool)

/-- A keyword argument; without a name it is an unpacked mapping. -/
inductive Keyword where
  | mk (lines : LineRange) (name : Option String) (value : Expr)

/-- A declared parameter. -/
inductive Param where
  | mk (lines : LineRange) (name : String) (hint : Option Expr)

/-- A parameter list. `defaults` belong to the last positional parameters, `keywordDefaults` to the
keyword-only ones, one each. -/
inductive Params where
  | mk (positionalOnly positional : List Param) (rest : Option Param) (keywordOnly : List Param)
      (keywordDefaults : List (Option Expr)) (keywordRest : Option Param) (defaults : List Expr)

end

namespace Expr

/-- The lines an expression stands on. -/
def lines : Expr → LineRange
  | boolOp l .. | named l .. | binary l .. | unary l .. | lambda l .. | ifExp l .. | dict l ..
  | set l .. | listComp l .. | setComp l .. | dictComp l .. | generator l .. | await l ..
  | yield l .. | yieldFrom l .. | compare l .. | call l .. | formatted l .. | joined l ..
  | constant l .. | attr l .. | subscript l .. | starred l .. | name l .. | list l .. | tuple l ..
  | slice l .. => l

end Expr

namespace Params

/-- The list without parameters. -/
def empty : Params := mk [] [] none [] [] none []

end Params

namespace Param

/-- The lines of a parameter. -/
def lines : Param → LineRange
  | mk l _ _ => l

/-- The name of a parameter. -/
def name : Param → String
  | mk _ n _ => n

/-- The type hint of a parameter. -/
def hint : Param → Option Expr
  | mk _ _ a => a

end Param

namespace Keyword

/-- The name of a keyword argument. -/
def name? : Keyword → Option String
  | mk _ n _ => n

/-- The lines of a keyword argument. -/
def lines : Keyword → LineRange
  | mk l _ _ => l

end Keyword

/-- A pattern of a `case`. -/
inductive Pattern where
  | value (lines : LineRange) (value : Expr)
  | singleton (lines : LineRange) (value : Literal)
  | sequence (lines : LineRange) (patterns : List Pattern)
  | mapping (lines : LineRange) (keys : List Expr) (patterns : List Pattern) (rest : Option String)
  | object (lines : LineRange) (cls : Expr) (patterns : List Pattern) (names : List String)
      (named : List Pattern)
  | star (lines : LineRange) (name : Option String)
  | capture (lines : LineRange) (pattern : Option Pattern) (name : Option String)
  | alternatives (lines : LineRange) (patterns : List Pattern)

namespace Pattern

/-- The lines a pattern stands on. -/
def lines : Pattern → LineRange
  | value l .. | singleton l .. | sequence l .. | mapping l .. | object l .. | star l ..
  | capture l .. | alternatives l .. => l

end Pattern

/-- An imported name with its new name, if it gets one. -/
structure Alias where
  lines : LineRange
  name : String
  asName : Option String
  deriving Repr, DecidableEq

/-- One context manager of a `with`. -/
structure WithItem where
  context : Expr
  target : Option Expr

mutual

/-- A statement. An annotated assignment is simple if its target is a name without parentheses; the
level of an import is the number of dots in front of the module. -/
inductive Stmt where
  | function (lines : LineRange) (isAsync : Bool) (name : String) (params : Params)
      (body : List Stmt) (decorators : List Expr) (returns : Option Expr)
  | classDef (lines : LineRange) (name : String) (bases : List Expr) (keywords : List Keyword)
      (body : List Stmt) (decorators : List Expr)
  | returnValue (lines : LineRange) (value : Option Expr)
  | delete (lines : LineRange) (targets : List Expr)
  | assign (lines : LineRange) (targets : List Expr) (value : Expr)
  | augAssign (lines : LineRange) (target : Expr) (op : BinaryOp) (value : Expr)
  | annAssign (lines : LineRange) (target hint : Expr) (value : Option Expr) (simple : Bool)
  | forLoop (lines : LineRange) (isAsync : Bool) (target source : Expr) (body orElse : List Stmt)
  | whileLoop (lines : LineRange) (test : Expr) (body orElse : List Stmt)
  | conditional (lines : LineRange) (test : Expr) (body orElse : List Stmt)
  | withBlock (lines : LineRange) (isAsync : Bool) (items : List WithItem) (body : List Stmt)
  | matchBlock (lines : LineRange) (subject : Expr) (cases : List MatchCase)
  | raiseError (lines : LineRange) (error cause : Option Expr)
  | tryBlock (lines : LineRange) (isStar : Bool) (body : List Stmt) (handlers : List Handler)
      (orElse finish : List Stmt)
  | assertion (lines : LineRange) (test : Expr) (message : Option Expr)
  | importNames (lines : LineRange) (names : List Alias)
  | importFrom (lines : LineRange) (module : Option String) (names : List Alias) (level : Nat)
  | globalNames (lines : LineRange) (names : List String)
  | nonlocalNames (lines : LineRange) (names : List String)
  | expression (lines : LineRange) (value : Expr)
  | pass (lines : LineRange)
  | breakLoop (lines : LineRange)
  | continueLoop (lines : LineRange)

/-- An `except` clause. -/
inductive Handler where
  | mk (lines : LineRange) (type : Option Expr) (name : Option String) (body : List Stmt)

/-- A `case` clause. -/
inductive MatchCase where
  | mk (pattern : Pattern) (guard : Option Expr) (body : List Stmt)

end

namespace Stmt

/-- The lines a statement stands on. A decorated declaration starts at its keyword. -/
def lines : Stmt → LineRange
  | function l .. | classDef l .. | returnValue l .. | delete l .. | assign l .. | augAssign l ..
  | annAssign l .. | forLoop l .. | whileLoop l .. | conditional l .. | withBlock l ..
  | matchBlock l .. | raiseError l .. | tryBlock l .. | assertion l .. | importNames l ..
  | importFrom l .. | globalNames l .. | nonlocalNames l .. | expression l .. | pass l ..
  | breakLoop l .. | continueLoop l .. => l

end Stmt

end Lineage.Source
