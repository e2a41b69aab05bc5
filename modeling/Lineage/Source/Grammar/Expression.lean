import Lineage.Source.Grammar.Parameter
import Lineage.Source.Grammar.Target

/-!
Expressions, from primaries to tuples without parentheses.
-/

namespace Lineage.Source.Grammar

open Lineage.Source.Grammar.Parser

variable (c : Call)

/-- An atom with the attributes, calls and subscripts that follow it. -/
def primaryRule : Parser Expr := do
  let start ← startLine
  let step (a : Expr) : Parser Expr := first [
    do let _ ← op "."
       let n ← name
       return .attr (← linesFrom start) a n,
    do let g ← generatorExpression c
       return .call (← linesFrom start) a [g] [],
    do let _ ← op "("
       let args ← optional c.arguments
       let _ ← op ")"
       return callOf (← linesFrom start) a args,
    do let _ ← op "["
       let i ← slices c
       let _ ← op "]"
       return .subscript (← linesFrom start) a i]
  grow (atom c) step

/-- A primary, awaited or not. -/
def awaitPrimaryRule : Parser Expr := first [
  spanned do
    let _ ← kw "await"
    let e ← c.primary
    return fun l => .await l e,
  c.primary]

/-- A primary with or without an exponent. -/
def power : Parser Expr := first [
  spanned do
    let a ← c.awaitPrimary
    let _ ← op "**"
    let b ← c.factor
    return fun l => .binary l a .pow b,
  c.awaitPrimary]

/-- A signed operand or a power. -/
def factorRule : Parser Expr :=
  let signed (text : String) (sign : UnaryOp) : Parser Expr := spanned do
    let _ ← op text
    let e ← c.factor
    return fun l => .unary l sign e
  first [signed "+" .plus, signed "-" .minus, signed "~" .invert, power c]

/-- Operands with operators of one level between them, taken together from the left. -/
def leftAssociative (operand : Parser Expr) (ops : List (String × BinaryOp)) : Parser Expr := do
  let start ← startLine
  grow operand fun a => first (ops.map fun (text, o) => do
    let _ ← op text
    let b ← operand
    return .binary (← linesFrom start) a o b)

/-- The binary operators by level, the loosest first. -/
def binaryLevels : List (List (String × BinaryOp)) :=
  [[("|", .bitOr)], [("^", .bitXor)], [("&", .bitAnd)], [("<<", .lShift), (">>", .rShift)],
    [("+", .add), ("-", .sub)],
    [("*", .mult), ("/", .div), ("//", .floorDiv), ("%", .mod), ("@", .matMult)]]

/-- Operands with arithmetic operators between them. -/
def bitwiseOrRule : Parser Expr :=
  binaryLevels.foldr (fun ops operand => leftAssociative operand ops) c.factor

/-- A comparison operator. -/
def compareOp : Parser CompareOp := first [
  do let _ ← op "=="; return .eq,
  do let _ ← op "!="; return .notEq,
  do let _ ← op "<="; return .ltE,
  do let _ ← op "<"; return .lt,
  do let _ ← op ">="; return .gtE,
  do let _ ← op ">"; return .gt,
  do let _ ← kw "not"; let _ ← kw "in"; return .notIn,
  do let _ ← kw "in"; return .isIn,
  do let _ ← kw "is"; let _ ← kw "not"; return .isNot,
  do let _ ← kw "is"; return .is]

/-- An operand, or operands with comparison operators between them. -/
def comparison : Parser Expr := do
  let start ← startLine
  let a ← c.bitwiseOr
  let rest ← many do return (← compareOp, ← c.bitwiseOr)
  if rest.isEmpty then return a
  else return .compare (← linesFrom start) a (rest.map (·.1)) (rest.map (·.2))

/-- A comparison, or the negation of one. -/
def inversionRule : Parser Expr := first [
  spanned do
    let _ ← kw "not"
    let e ← c.inversion
    return fun l => .unary l .not e,
  comparison c]

/-- Operands with one logical operator between them. -/
def logical (operand : Parser Expr) (word : String) (o : BoolOp) : Parser Expr := do
  let start ← startLine
  let a ← operand
  let rest ← many do let _ ← kw word; operand
  if rest.isEmpty then return a
  else return .boolOp (← linesFrom start) o (a :: rest)

/-- Operands with `and` between them. -/
def conjunctionRule : Parser Expr := logical c.inversion "and" .and

/-- Operands with `or` between them. -/
def disjunctionRule : Parser Expr := logical c.conjunction "or" .or

/-- An anonymous function. -/
def lambda : Parser Expr := spanned do
  let _ ← kw "lambda"
  let ps ← optional (params c lambdaStyle)
  let _ ← op ":"
  let e ← c.expression
  return fun l => .lambda l (ps.getD .empty) e

/-- A choice between two values. -/
def conditional : Parser Expr := spanned do
  let a ← c.disjunction
  let _ ← kw "if"
  let b ← c.disjunction
  let _ ← kw "else"
  let e ← c.expression
  return fun l => .ifExp l b a e

/-- An expression at whose operands no mistakes are looked for. -/
def expressionUndiagnosed : Parser Expr :=
  undiagnosed (first [conditional c, c.disjunction, lambda c])

/-- The name of a statement of former times. -/
def legacyName? : Expr → Option String
  | .name _ id => if id == "print" || id == "exec" then some id else none
  | _ => none

/-- Two expressions with nothing between them, and a condition without its other branch. -/
def invalidExpression {α : Type} : Parser α :=
  commit (do
      notLook (first [
        do let _ ← name; let _ ← token (·.kind == .string); return (),
        do let _ ← token fun t => t.kind == .name && softKeywords.contains t.text; return ()])
      let a ← c.disjunction
      let _ ← expressionUndiagnosed c
      return a)
    (fun a => do
      if (legacyName? a).isSome then fail
      else if (← depth) = 0 then fail
      else raiseAt a.lines.first "invalid syntax. Perhaps you forgot a comma?")
  (commit (do
      let a ← c.disjunction
      let _ ← kw "if"
      let _ ← c.disjunction
      notLook (first [kw "else", op ":"])
      return a)
    (fun a => raiseAt a.lines.first "expected 'else' after 'if' expression") fail)

/-- A statement of former times in the place of a call. -/
def invalidLegacyExpression {α : Type} : Parser α :=
  commit (do
      let a ← nameExpression
      notLook (op "(")
      let _ ← c.starExpressions
      return a)
    (fun a => match legacyName? a with
      | some id => raiseAt a.lines.first
          ("Missing parentheses in call to '" ++ id ++ "'. Did you mean " ++ id ++ "(...)?")
      | none => fail) fail

/-- A condition, a lambda or a disjunction. -/
def expressionRule : Parser Expr := first [
  diagnose (invalidExpression c),
  diagnose (invalidLegacyExpression c),
  conditional c,
  c.disjunction,
  lambda c]

/-- An expression, or a starred operand. -/
def starExpressionRule : Parser Expr := first [
  spanned do
    let _ ← op "*"
    let e ← c.bitwiseOr
    return fun l => .starred l e,
  c.expression]

/-- Expressions with commas between them, a tuple unless there is one without a comma. -/
def tupleOr (item : Parser Expr) : Parser Expr := first [
  spanned do
    let a ← item
    let rest ← many1 do let _ ← op ","; item
    let _ ← optional (op ",")
    return fun l => .tuple l (a :: rest),
  spanned do
    let a ← item
    let _ ← op ","
    return fun l => .tuple l [a],
  item]

/-- Expressions and starred operands with commas between them. -/
def starExpressionsRule : Parser Expr := tupleOr c.starExpression

/-- Expressions with commas between them. -/
def expressions : Parser Expr := tupleOr c.expression

/-- Assignments in the place of expressions. -/
def invalidNamedExpression {α : Type} : Parser α :=
  let unassigned : Parser Unit := notLook (first [op "=", op ":="])
  commit (do let a ← c.expression; let _ ← op ":="; let _ ← c.expression; return a)
    (fun a => raiseAt a.lines.first
      ("cannot use assignment expressions with " ++ a.description))
  (commit (do
      let a ← nameExpression
      let _ ← op "="
      let _ ← c.bitwiseOr
      unassigned
      return a)
    (fun a => raiseAt a.lines.first meantComparison)
  (commit (do
      notLook (first [listDisplay c, tupleDisplay c, generatorExpression c, keywordConstant])
      let a ← c.bitwiseOr
      let _ ← op "="
      let _ ← c.bitwiseOr
      unassigned
      return a)
    (fun a => raiseAt a.lines.first
      ("cannot assign to " ++ a.description ++ " here. Maybe you meant '==' instead of '='?"))
    fail))

/-- An expression or an assignment expression. -/
def namedExpressionRule : Parser Expr := first [
  assignmentExpression c,
  diagnose (invalidNamedExpression c),
  plainExpression c]

end Lineage.Source.Grammar
