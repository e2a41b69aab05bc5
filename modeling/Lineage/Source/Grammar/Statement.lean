import Lineage.Sequence.Total
import Lineage.Source.Grammar.Pattern

/-!
Statements, from assignments to function declarations.
-/

namespace Lineage.Source.Grammar

open Lineage.Source.Grammar.Parser

variable (c : Call)

/-! ### Assignments -/

/-- The right side of an assignment. -/
def assignedValue : Parser Expr := first [yieldExpression c, c.starExpressions]

/-- The operators of augmented assignments. -/
def augmentedOps : List (String × BinaryOp) :=
  [("+=", .add), ("-=", .sub), ("*=", .mult), ("@=", .matMult), ("/=", .div), ("%=", .mod),
    ("&=", .bitAnd), ("|=", .bitOr), ("^=", .bitXor), ("<<=", .lShift), (">>=", .rShift),
    ("**=", .pow), ("//=", .floorDiv)]

/-- The operator of an augmented assignment. -/
def augmentedOp : Parser (String × BinaryOp) :=
  first (augmentedOps.map fun (text, o) => do let _ ← op text; return (text, o))

/-- A list or tuple where an annotated target should be. -/
def annotationTargetRule : Parser Expr := first [
  listDisplay c,
  tupleDisplay c,
  do let _ ← op "("
     let e ← c.annotationTarget
     let _ ← op ")"
     return e]

/-- Assignments to something that is no target. -/
def invalidAssignment {α : Type} : Parser α :=
  let targets : Parser Unit := do
    let _ ← many do let _ ← starTargets c; op "="
    return ()
  commit (do let a ← c.annotationTarget; let _ ← op ":"; let _ ← c.expression; return a)
    (fun a => raiseAt a.lines.first
      ("only single target (not " ++ a.description ++ ") can be annotated"))
  (commit (do
      let a ← starNamedExpression c
      let _ ← op ","
      let _ ← many (starNamedExpressions c)
      let _ ← op ":"
      let _ ← c.expression
      return a)
    (fun a => raiseAt a.lines.first "only single target (not tuple) can be annotated")
  (commit (do let a ← c.expression; let _ ← op ":"; let _ ← c.expression; return a)
    (fun a => raiseAt a.lines.first "illegal target for annotation")
  (commit (do targets; let a ← c.starExpressions; let _ ← op "="; return a)
    (raiseInvalidTarget .assign)
  (commit (do targets; let a ← yieldExpression c; let _ ← op "="; return a)
    (fun a => raiseAt a.lines.first "assignment to yield expression not possible")
  (commit (do
      let a ← c.starExpressions
      let _ ← augmentedOp
      let _ ← assignedValue c
      return a)
    (fun a => raiseAt a.lines.first
      ("'" ++ a.description ++ "' is an illegal expression for augmented assignment")) fail)))))

/-- An assignment of any form. -/
def assignment : Parser Stmt := do
  let start ← startLine
  let assigned : Parser (Option Expr) := optional do let _ ← op "="; assignedValue c
  first [
    spanned do
      let t ← nameExpression
      let _ ← op ":"
      let a ← c.expression
      let v ← assigned
      return fun l => .annAssign l t a v true,
    spanned do
      let t ← first [
        do let _ ← op "("
           let t ← c.singleTarget
           let _ ← op ")"
           return t,
        attributeOrSubscript c]
      let _ ← op ":"
      let a ← c.expression
      let v ← assigned
      return fun l => .annAssign l t a v false,
    spanned do
      let ts ← many1 do let t ← starTargets c; let _ ← op "="; return t
      let v ← assignedValue c
      notLook (op "=")
      return fun l => .assign l ts v,
    commit (do let t ← c.singleTarget; let (_, o) ← augmentedOp; return (t, o))
      (fun (t, o) => do
        let v ← assignedValue c
        return .augAssign (← linesFrom start) t o v)
      (diagnose (invalidAssignment c))]

/-! ### Other statements on one line -/

/-- `return` with or without a value. -/
def returnStatement : Parser Stmt := spanned do
  let _ ← kw "return"
  let e ← optional c.starExpressions
  return fun l => .returnValue l e

/-- `raise` with or without an error and its cause. -/
def raiseStatement : Parser Stmt := first [
  spanned do
    let _ ← kw "raise"
    let e ← c.expression
    let cause ← optional do let _ ← kw "from"; c.expression
    return fun l => .raiseError l (some e) cause,
  spanned do let _ ← kw "raise"; return fun l => .raiseError l none none]

/-- `global` or `nonlocal` with names. -/
def scopeStatement (word : String) (build : LineRange → List String → Stmt) : Parser Stmt :=
  spanned do
    let _ ← kw word
    let ns ← sepBy1 "," name
    return fun l => build l ns

/-- `del` with its targets. -/
def deleteStatement : Parser Stmt := first [
  spanned do
    let _ ← kw "del"
    let ts ← deleteTargets c
    look (first [op ";", layout .newline])
    return fun l => .delete l ts,
  diagnose (commit (do let _ ← kw "del"; c.starExpressions) (raiseInvalidTarget .delete) fail)]

/-- `assert` with its condition and message. -/
def assertStatement : Parser Stmt := spanned do
  let _ ← kw "assert"
  let e ← c.expression
  let m ← optional do let _ ← op ","; c.expression
  return fun l => .assertion l e m

/-- A name with dots. -/
def dottedName : Parser String := do
  let ns ← sepBy1 "." name
  return ".".intercalate ns

/-- The new name of something imported. -/
def asName : Parser (Option String) := optional do let _ ← kw "as"; name

/-- A module with its new name. -/
def moduleAlias : Parser Alias := spanned do
  let n ← dottedName
  let a ← asName
  return fun l => ⟨l, n, a⟩

/-- A name of a module with its new name. -/
def memberAlias : Parser Alias := spanned do
  let n ← name
  let a ← asName
  return fun l => ⟨l, n, a⟩

/-- The names that are imported from a module. -/
def importTargets : Parser (List Alias) := first [
  do let _ ← op "("
     let ns ← sepBy1 "," memberAlias
     let _ ← optional (op ",")
     let _ ← op ")"
     return ns,
  do let ns ← sepBy1 "," memberAlias
     notLook (op ",")
     return ns,
  spanned do let _ ← op "*"; return fun l => [⟨l, "*", none⟩],
  diagnose (commit (do
      let _ ← sepBy1 "," memberAlias
      let _ ← op ","
      layout .newline)
    (fun _ => raiseLast "trailing comma not allowed without surrounding parentheses") fail)]

/-- Dots in front of a module. -/
def importDots : Parser Nat := first [
  do let _ ← op "."; return 1,
  do let _ ← op "..."; return 3]

/-- An import of either form. -/
def importStatement : Parser Stmt := first [
  spanned do
    let _ ← kw "import"
    let ns ← sepBy1 "," moduleAlias
    return fun l => .importNames l ns,
  spanned do
    let _ ← kw "from"
    let dots ← many importDots
    let m ← dottedName
    let _ ← kw "import"
    let ns ← importTargets
    return fun l => .importFrom l (some m) ns (Sequence.total dots),
  spanned do
    let _ ← kw "from"
    let dots ← many1 importDots
    let _ ← kw "import"
    let ns ← importTargets
    return fun l => .importFrom l none ns (Sequence.total dots)]

/-- A statement on one line. -/
def simpleStatementRule : Parser Stmt := first [
  assignment c,
  spanned do let e ← c.starExpressions; return fun l => .expression l e,
  returnStatement c,
  importStatement,
  raiseStatement c,
  spanned do let _ ← kw "pass"; return fun l => .pass l,
  deleteStatement c,
  spanned do let e ← yieldExpression c; return fun l => .expression l e,
  assertStatement c,
  spanned do let _ ← kw "break"; return fun l => .breakLoop l,
  spanned do let _ ← kw "continue"; return fun l => .continueLoop l,
  scopeStatement "global" .globalNames,
  scopeStatement "nonlocal" .nonlocalNames]

/-- Statements with semicolons between them up to the end of the line. -/
def simpleStatements : Parser (List Stmt) := first [
  do let s ← c.simpleStatement
     notLook (op ";")
     let _ ← layout .newline
     return [s],
  do let ss ← sepBy1 ";" c.simpleStatement
     let _ ← optional (op ";")
     let _ ← layout .newline
     return ss]

/-! ### Blocks -/

/-- The end of a line after which no block is indented. -/
def noIndent : Parser Unit := do
  let _ ← layout .newline
  notLook (layout .indent)

/-- The message for a block that is not indented. -/
def unindented (what : String) (line : Nat) : String :=
  "expected an indented block after " ++ what ++ " on line " ++ toString line

/-- Raises a fault for a head of a compound statement whose block is not indented. -/
def raiseUnindented {α : Type} (what : String) (t : Token) : Parser α :=
  raiseLast (unindented what t.first)

/-- The message for a head without its colon. -/
def expectedColon : String := "expected ':'"

/-- A head that ends without a colon, or whose block is not indented. `mark` is the token that the
second complaint names. -/
def invalidHead {α : Type} (what : String) (head : Parser Token) : Parser α :=
  commit (do let _ ← head; layout .newline) (fun _ => raiseLast expectedColon)
  (commit (do let a ← head; let _ ← op ":"; noIndent; return a) (raiseUnindented what) fail)

/-- The body of a compound statement. -/
def blockRule : Parser (List Stmt) := first [
  do let _ ← layout .newline
     let _ ← layout .indent
     let ss ← c.statements
     let _ ← layout .dedent
     return ss,
  simpleStatements c,
  diagnose (commit noIndent (fun _ => raiseLast "expected an indented block") fail)]

/-- An `else` with its block. -/
def elseBlock : Parser (List Stmt) := first [
  diagnose (commit (do let a ← kw "else"; let _ ← op ":"; noIndent; return a)
    (raiseUnindented "'else' statement") fail),
  do let _ ← kw "else"
     let _ ← forced ":"
     c.block]

/-! ### Conditions and loops -/

/-- A condition after its keyword with what follows it. -/
def conditionStatement (word : String) : Parser Stmt := first [
  diagnose (invalidHead ("'" ++ word ++ "' statement") do
    let a ← kw word
    let _ ← c.namedExpression
    return a),
  spanned do
    let _ ← kw word
    let e ← c.namedExpression
    let _ ← op ":"
    let b ← c.block
    let rest ← first [
      do return [← c.elifStatement],
      do return (← optional (elseBlock c)).getD []]
    return fun l => .conditional l e b rest]

/-- An `elif` with what follows it. -/
def elifStatementRule : Parser Stmt := conditionStatement c "elif"

/-- A loop with a condition. -/
def whileStatement : Parser Stmt := first [
  diagnose (invalidHead "'while' statement" do
    let a ← kw "while"
    let _ ← c.namedExpression
    return a),
  spanned do
    let _ ← kw "while"
    let e ← c.namedExpression
    let _ ← op ":"
    let b ← c.block
    let rest ← optional (elseBlock c)
    return fun l => .whileLoop l e b (rest.getD [])]

/-- A loop over the items of something. -/
def forStatement : Parser Stmt := do
  let start ← startLine
  let head (isAsync : Bool) : Parser Expr := do
    if isAsync then let _ ← kw "async"
    let _ ← kw "for"
    let t ← starTargets c
    let _ ← kw "in"
    return t
  let tail (isAsync : Bool) (t : Expr) : Parser Stmt := do
    let e ← c.starExpressions
    let _ ← op ":"
    let b ← c.block
    let rest ← optional (elseBlock c)
    return .forLoop (← linesFrom start) isAsync t e b (rest.getD [])
  first [
    diagnose (invalidHead "'for' statement" do
      let _ ← optional (kw "async")
      let a ← kw "for"
      let _ ← starTargets c
      let _ ← kw "in"
      let _ ← c.starExpressions
      return a),
    commit (head false) (tail false)
      (commit (head true) (tail true) (diagnose (invalidForTarget c)))]

/-! ### Context managers -/

/-- A context manager with its target. -/
def withItem : Parser WithItem := first [
  do let e ← c.expression
     let _ ← kw "as"
     let t ← c.starTarget
     look (first [op ",", op ")", op ":"])
     return ⟨e, some t⟩,
  diagnose (commit (do
      let _ ← c.expression
      let _ ← kw "as"
      let a ← c.expression
      look (first [op ",", op ")", op ":"])
      return a)
    (raiseInvalidTarget .assign) fail),
  do return ⟨← c.expression, none⟩]

/-- The head of a `with` as the search for mistakes reads it, in parentheses or not. -/
def looseWithHead (bracketed : Bool) : Parser Token := do
  let _ ← optional (kw "async")
  let a ← kw "with"
  let target : Parser (Option Expr) := optional do let _ ← kw "as"; c.starTarget
  if bracketed then
    let _ ← op "("
    let _ ← sepBy1 "," do let _ ← expressions c; target
    let _ ← optional (op ",")
    let _ ← op ")"
  else
    let _ ← sepBy1 "," do let _ ← c.expression; target
  return a

/-- A `with` whose block is not indented. -/
def invalidWithIndent {α : Type} : Parser α :=
  let unindentedHead (bracketed : Bool) : Parser Token := do
    let a ← looseWithHead c bracketed
    let _ ← op ":"
    noIndent
    return a
  commit (unindentedHead false) (raiseUnindented "'with' statement")
    (commit (unindentedHead true) (raiseUnindented "'with' statement") fail)

/-- A `with` without its colon. -/
def invalidWith {α : Type} : Parser α :=
  let open_ (bracketed : Bool) : Parser Token := do
    let _ ← looseWithHead c bracketed
    layout .newline
  commit (open_ false) (fun _ => raiseLast expectedColon)
    (commit (open_ true) (fun _ => raiseLast expectedColon) fail)

/-- A block under context managers. -/
def withStatement : Parser Stmt :=
  let form (isAsync bracketed : Bool) : Parser Stmt := spanned do
    if isAsync then let _ ← kw "async"
    let _ ← kw "with"
    let items ← if bracketed then do
        let _ ← op "("
        let items ← sepBy1 "," (withItem c)
        let _ ← optional (op ",")
        let _ ← op ")"
        pure items
      else sepBy1 "," (withItem c)
    let _ ← op ":"
    let b ← c.block
    return fun l => .withBlock l isAsync items b
  first [
    diagnose (invalidWithIndent c),
    form false true,
    form false false,
    form true true,
    form true false,
    diagnose (invalidWith c)]

/-! ### Error handling -/

/-- Mistakes in the head of an `except`. -/
def invalidExcept {α : Type} : Parser α :=
  let bound : Parser (Option String) := optional do let _ ← kw "as"; name
  commit (do
      let _ ← kw "except"
      let _ ← optional (op "*")
      let a ← c.expression
      let _ ← op ","
      let _ ← expressions c
      let _ ← bound
      let _ ← op ":"
      return a)
    (fun a => raiseAt a.lines.first "multiple exception types must be parenthesized")
  (commit (do
      let _ ← kw "except"
      let _ ← optional (op "*")
      let _ ← c.expression
      let _ ← bound
      layout .newline)
    (fun _ => raiseLast expectedColon)
  (commit (do let _ ← kw "except"; layout .newline) (fun _ => raiseLast expectedColon)
  (commit (do
      let _ ← kw "except"
      let _ ← op "*"
      first [layout .newline, op ":"])
    (fun _ => raiseLast "expected one or more exception types") fail)))

/-- An `except` whose block is not indented. -/
def invalidExceptIndent {α : Type} : Parser α :=
  commit (do
      let a ← kw "except"
      let _ ← c.expression
      let _ ← asName
      let _ ← op ":"
      noIndent
      return a)
    (raiseUnindented "'except' statement")
  (commit (do let a ← kw "except"; let _ ← op ":"; noIndent; return a)
    (raiseUnindented "'except' statement") fail)

/-- An `except*` whose block is not indented. -/
def invalidExceptStarIndent {α : Type} : Parser α :=
  commit (do
      let a ← kw "except"
      let _ ← op "*"
      let _ ← c.expression
      let _ ← asName
      let _ ← op ":"
      noIndent
      return a)
    (raiseUnindented "'except*' statement") fail

/-- An `except` clause. -/
def exceptBlock : Parser Handler := first [
  diagnose (invalidExceptIndent c),
  spanned do
    let _ ← kw "except"
    let e ← c.expression
    let n ← asName
    let _ ← op ":"
    let b ← c.block
    return fun l => .mk l (some e) n b,
  spanned do
    let _ ← kw "except"
    let _ ← op ":"
    let b ← c.block
    return fun l => .mk l none none b,
  diagnose (invalidExcept c)]

/-- An `except*` clause. -/
def exceptStarBlock : Parser Handler := first [
  diagnose (invalidExceptStarIndent c),
  spanned do
    let _ ← kw "except"
    let _ ← op "*"
    let e ← c.expression
    let n ← asName
    let _ ← op ":"
    let b ← c.block
    return fun l => .mk l (some e) n b,
  diagnose (invalidExcept c)]

/-- A `finally` with its block. -/
def finallyBlock : Parser (List Stmt) := first [
  diagnose (commit (do let a ← kw "finally"; let _ ← op ":"; noIndent; return a)
    (raiseUnindented "'finally' statement") fail),
  do let _ ← kw "finally"
     let _ ← forced ":"
     c.block]

/-- A `try` without its clauses, or with clauses of both kinds. -/
def invalidTry {α : Type} : Parser α :=
  commit (do let a ← kw "try"; let _ ← op ":"; noIndent; return a)
    (raiseUnindented "'try' statement")
  (commit (do
      let _ ← kw "try"
      let _ ← op ":"
      let _ ← c.block
      notLook (first [kw "except", kw "finally"]))
    (fun _ => raiseLast "expected 'except' or 'finally' block")
  (commit (do
      let _ ← kw "try"
      let _ ← op ":"
      let _ ← many c.block
      let _ ← first [
        do let _ ← many1 (exceptBlock c); exceptStarBlock c,
        do let _ ← many1 (exceptStarBlock c); exceptBlock c]
      many c.block)
    (fun _ => raiseLast "cannot have both 'except' and 'except*' on the same 'try'") fail))

/-- A block with handlers. -/
def tryStatement : Parser Stmt :=
  let handled (isStar : Bool) (handler : Parser Handler) (b : List Stmt) :
      Parser (LineRange → Stmt) := do
    let hs ← many1 handler
    let e ← optional (elseBlock c)
    let f ← optional (finallyBlock c)
    return fun l => .tryBlock l isStar b hs (e.getD []) (f.getD [])
  first [
    diagnose (invalidTry c),
    spanned do
      let _ ← kw "try"
      let _ ← forced ":"
      let b ← c.block
      first [
        do let f ← finallyBlock c
           return fun l => .tryBlock l false b [] [] f,
        handled false (exceptBlock c) b,
        handled true (exceptStarBlock c) b]]

/-! ### Pattern matching -/

/-- What is matched. -/
def matchSubject : Parser Expr := first [
  spanned do
    let e ← starNamedExpression c
    let _ ← op ","
    let rest ← optional (starNamedExpressions c)
    return fun l => .tuple l (e :: rest.getD []),
  c.namedExpression]

/-- The condition of a `case`. -/
def caseGuard : Parser Expr := do
  let _ ← kw "if"
  c.namedExpression

/-- A `case` clause. -/
def caseBlock : Parser MatchCase := first [
  diagnose (invalidHead "'case' statement" do
    let a ← soft "case"
    let _ ← patterns c
    let _ ← optional (caseGuard c)
    return a),
  do let _ ← soft "case"
     let p ← patterns c
     let g ← optional (caseGuard c)
     let _ ← op ":"
     return .mk p g (← c.block)]

/-- A `match` with its cases. -/
def matchStatement : Parser Stmt := first [
  spanned do
    let _ ← soft "match"
    let e ← matchSubject c
    let _ ← op ":"
    let _ ← layout .newline
    let _ ← layout .indent
    let cs ← many1 (caseBlock c)
    let _ ← layout .dedent
    return fun l => .matchBlock l e cs,
  diagnose (invalidHead "'match' statement" do
    let a ← soft "match"
    let _ ← matchSubject c
    return a)]

/-! ### Declarations -/

/-- Decorators, each on a line of its own. -/
def decorators : Parser (List Expr) := many1 do
  let _ ← op "@"
  let e ← c.namedExpression
  let _ ← layout .newline
  return e

/-- The type after the arrow of a function. -/
def returnType : Parser (Option Expr) := optional do let _ ← op "->"; c.expression

/-- A function after its decorators. -/
def plainFunction (ds : List Expr) : Parser Stmt :=
  let form (isAsync : Bool) : Parser Stmt := spanned do
    if isAsync then let _ ← kw "async"
    let _ ← kw "def"
    let n ← name
    let _ ← forced "("
    let ps ← optional (params c functionStyle)
    let _ ← op ")"
    let r ← returnType c
    let _ ← forced ":"
    let b ← c.block
    return fun l => .function l isAsync n (ps.getD .empty) b ds r
  first [
    diagnose (commit (do
        let _ ← optional (kw "async")
        let a ← kw "def"
        let _ ← name
        let _ ← op "("
        let _ ← optional (params c functionStyle)
        let _ ← op ")"
        let _ ← returnType c
        let _ ← op ":"
        noIndent
        return a)
      (raiseUnindented "function definition") fail),
    form false,
    form true]

/-- The bases and keyword arguments of a class. -/
def classArguments : Parser (Option Args) := do
  let a ← optional do
    let _ ← op "("
    let a ← optional c.arguments
    let _ ← op ")"
    return a
  return a.getD none

/-- A class after its decorators. -/
def plainClass (ds : List Expr) : Parser Stmt := first [
  diagnose (invalidHead "class definition" do
    let a ← kw "class"
    let _ ← name
    let _ ← classArguments c
    return a),
  spanned do
    let _ ← kw "class"
    let n ← name
    let a ← classArguments c
    let _ ← op ":"
    let b ← c.block
    return fun l => .classDef l n ((a.map (·.positional)).getD []) ((a.map (·.keywords)).getD []) b ds]

/-- A declaration with or without decorators. -/
def decorated (plain : List Expr → Parser Stmt) : Parser Stmt := first [
  do plain (← decorators c),
  plain []]

/-! ### All statements -/

/-- Parses a statement if one of the tokens that start it is ahead. -/
def startingWith (starts : List (Parser Token)) (p : Parser Stmt) : Parser Stmt := do
  look (first starts)
  p

/-- A statement with blocks. -/
def compoundStatement : Parser Stmt := first [
  startingWith [kw "def", op "@", kw "async"] (decorated c (plainFunction c)),
  startingWith [kw "if"] (conditionStatement c "if"),
  startingWith [kw "class", op "@"] (decorated c (plainClass c)),
  startingWith [kw "with", kw "async"] (withStatement c),
  startingWith [kw "for", kw "async"] (forStatement c),
  startingWith [kw "try"] (tryStatement c),
  startingWith [kw "while"] (whileStatement c),
  matchStatement c]

/-- One statement or more. -/
def statementsRule : Parser (List Stmt) := do
  let ss ← many1 (first [do return [← compoundStatement c], simpleStatements c])
  return ss.flatten

/-- A whole file. -/
def file : Parser (List Stmt) := do
  let ss ← optional c.statements
  let _ ← layout .endMarker
  return ss.getD []

end Lineage.Source.Grammar
