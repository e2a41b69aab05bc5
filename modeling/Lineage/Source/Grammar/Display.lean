import Lineage.Source.Grammar.Constant
import Lineage.Source.Grammar.Describe

/-!
Brackets and what stands in them: comprehensions, displays of lists, tuples, sets and dictionaries,
and parentheses.
-/

namespace Lineage.Source.Grammar

open Lineage.Source.Grammar.Parser

variable (c : Call)

/-- A name as an expression. -/
def nameExpression : Parser Expr := spanned do
  let n ← name
  return fun l => .name l n

/-- A name bound to a value inside an expression. -/
def assignmentExpression : Parser Expr := do
  let start ← startLine
  commit (do let n ← nameExpression; let _ ← op ":="; return n)
    (fun n => do let v ← c.expression; return .named (← linesFrom start) n v) fail

/-- An expression that is not the target of an assignment expression. -/
def plainExpression : Parser Expr := do
  let e ← c.expression
  notLook (op ":=")
  return e

/-- A starred expression. -/
def starredExpression : Parser Expr := spanned do
  let _ ← op "*"
  let e ← c.expression
  return fun l => .starred l e

/-- An item of a display: a starred operand or an expression. -/
def starNamedExpression : Parser Expr := first [
  spanned do
    let _ ← op "*"
    let e ← c.bitwiseOr
    return fun l => .starred l e,
  c.namedExpression]

/-- Items of a display with commas between them. -/
def starNamedExpressions : Parser (List Expr) := do
  let es ← sepBy1 "," (starNamedExpression c)
  let _ ← optional (op ",")
  return es

/-- A `yield`, with or without a value. -/
def yieldExpression : Parser Expr := first [
  spanned do
    let _ ← kw "yield"
    let _ ← kw "from"
    let e ← c.expression
    return fun l => .yieldFrom l e,
  spanned do
    let _ ← kw "yield"
    let e ← optional c.starExpressions
    return fun l => .yield l e]

/-! ### Comprehensions -/

/-- The targets of one assignment or loop. -/
def starTargets : Parser Expr := first [
  do let t ← c.starTarget
     notLook (op ",")
     return t,
  spanned do
    let t ← c.starTarget
    let rest ← many do let _ ← op ","; c.starTarget
    let _ ← optional (op ",")
    return fun l => .tuple l (t :: rest)]

/-- A loop over something that is no target. -/
def invalidForTarget {α : Type} : Parser α := do
  let _ ← optional (kw "async")
  let _ ← kw "for"
  let e ← c.starExpressions
  raiseInvalidTarget .loop e

/-- One `for` of a comprehension with its conditions. -/
def forIfClause : Parser Comprehension :=
  let head (isAsync : Bool) : Parser Expr := do
    if isAsync then let _ ← kw "async"
    let _ ← kw "for"
    let t ← starTargets c
    let _ ← kw "in"
    return t
  let tail (isAsync : Bool) (t : Expr) : Parser Comprehension := do
    let source ← c.disjunction
    let conditions ← many do let _ ← kw "if"; c.disjunction
    return .mk t source conditions isAsync
  commit (head true) (tail true)
    (commit (head false) (tail false) (diagnose (invalidForTarget c)))

/-- The clauses of a comprehension. -/
def forIfClauses : Parser (List Comprehension) := many1 (forIfClause c)

/-- Comprehensions over something that cannot be unpacked there. -/
def invalidComprehension {α : Type} : Parser α :=
  let bracket : Parser Token := first [op "[", op "(", op "\x7b"]
  let square : Parser Token := first [op "[", op "\x7b"]
  let forgotten := "did you forget parentheses around the comprehension target?"
  commit (do let _ ← bracket; let a ← starredExpression c; let _ ← forIfClauses c; return a)
    (fun a => raiseAt a.lines.first "iterable unpacking cannot be used in comprehension")
  (commit (do
      let _ ← square
      let a ← starNamedExpression c
      let _ ← op ","
      let _ ← starNamedExpressions c
      let _ ← forIfClauses c
      return a)
    (fun a => raiseAt a.lines.first forgotten)
  (commit (do
      let _ ← square
      let a ← starNamedExpression c
      let _ ← op ","
      let _ ← forIfClauses c
      return a)
    (fun a => raiseAt a.lines.first forgotten) fail))

/-- A comprehension in parentheses. -/
def generatorExpression : Parser Expr := first [
  spanned do
    let _ ← op "("
    let e ← first [assignmentExpression c, plainExpression c]
    let gs ← forIfClauses c
    let _ ← op ")"
    return fun l => .generator l e gs,
  diagnose (invalidComprehension c)]

/-- A comprehension in square brackets. -/
def listComprehension : Parser Expr := first [
  spanned do
    let _ ← op "["
    let e ← c.namedExpression
    let gs ← forIfClauses c
    let _ ← op "]"
    return fun l => .listComp l e gs,
  diagnose (invalidComprehension c)]

/-- A comprehension in braces that gives a set. -/
def setComprehension : Parser Expr := first [
  spanned do
    let _ ← op "\x7b"
    let e ← c.namedExpression
    let gs ← forIfClauses c
    let _ ← op "\x7d"
    return fun l => .setComp l e gs,
  diagnose (invalidComprehension c)]

/-- A key with its value. -/
def keyValue : Parser (Expr × Expr) := do
  let k ← c.expression
  let _ ← op ":"
  return (k, ← c.expression)

/-- A comprehension in braces that gives a dictionary. -/
def dictComprehension : Parser Expr := first [
  spanned do
    let _ ← op "\x7b"
    let (k, v) ← keyValue c
    let gs ← forIfClauses c
    let _ ← op "\x7d"
    return fun l => .dictComp l k v gs,
  diagnose (commit (do
      let _ ← op "\x7b"
      let a ← op "**"
      let _ ← c.bitwiseOr
      let _ ← forIfClauses c
      let _ ← op "\x7d"
      return a)
    (fun a => raiseAt a.first "dict unpacking cannot be used in dict comprehension") fail)]

/-! ### Displays -/

/-- A display in square brackets. -/
def listDisplay : Parser Expr := spanned do
  let _ ← op "["
  let es ← optional (starNamedExpressions c)
  let _ ← op "]"
  return fun l => .list l (es.getD [])

/-- A tuple in parentheses. -/
def tupleDisplay : Parser Expr := spanned do
  let _ ← op "("
  let es ← optional do
    let e ← starNamedExpression c
    let _ ← op ","
    let rest ← optional (starNamedExpressions c)
    return e :: rest.getD []
  let _ ← op ")"
  return fun l => .tuple l (es.getD [])

/-- An expression in parentheses. It keeps its own lines. -/
def group : Parser Expr := first [
  do let _ ← op "("
     let e ← first [yieldExpression c, c.namedExpression]
     let _ ← op ")"
     return e,
  diagnose (commit (do
      let _ ← op "("
      let e ← starredExpression c
      let _ ← op ")"
      return e)
    (fun e => raiseAt e.lines.first "cannot use starred expression here")
    (commit (do
      let _ ← op "("
      let a ← op "**"
      let _ ← c.expression
      let _ ← op ")"
      return a)
    (fun a => raiseAt a.first "cannot use double starred expression here") fail))]

/-- A display of a set. -/
def setDisplay : Parser Expr := spanned do
  let _ ← op "\x7b"
  let es ← starNamedExpressions c
  let _ ← op "\x7d"
  return fun l => .set l es

/-- An entry of a dictionary: a key with its value, or an unpacked mapping without a key. -/
def dictEntry : Parser (Option Expr × Expr) := first [
  do let _ ← op "**"
     return (none, ← c.bitwiseOr),
  do let (k, v) ← keyValue c
     return (some k, v)]

/-- The message for a star in front of a dictionary value. -/
def starredValue : String := "cannot use a starred expression in a dictionary value"

/-- The message for a dictionary value that is missing. -/
def missingValue : String := "expression expected after dictionary key and ':'"

/-- Entries that lack a colon or a value. -/
def invalidDictEntries {α : Type} : Parser α :=
  let starValue : Parser Token := do
    let _ ← c.expression
    let _ ← op ":"
    let a ← op "*"
    let _ ← c.bitwiseOr
    return a
  let closed : Parser Unit := look (first [op "\x7d", op ","])
  let invalidEntry : Parser α :=
    commit (do let a ← c.expression; notLook (op ":"); return a)
      (fun a => raiseAt a.lines.first "':' expected after dictionary key")
    (commit starValue (fun a => raiseAt a.first starredValue)
    (commit (do let _ ← c.expression; let a ← op ":"; closed; return a)
      (fun a => raiseAt a.first missingValue) fail))
  first [
    do let _ ← sepBy1 "," (dictEntry c)
       let _ ← op ","
       invalidEntry,
    commit starValue (fun a => raiseAt a.first starredValue)
    (commit (do let _ ← c.expression; let a ← op ":"; closed; return a)
      (fun a => raiseAt a.first missingValue) fail)]

/-- A display of a dictionary. -/
def dictDisplay : Parser Expr := first [
  spanned do
    let _ ← op "\x7b"
    let entries ← optional do
      let es ← sepBy1 "," (dictEntry c)
      let _ ← optional (op ",")
      return es
    let _ ← op "\x7d"
    let entries := entries.getD []
    return fun l => .dict l (entries.map (·.1)) (entries.map (·.2)),
  do let _ ← op "\x7b"
     invalidDictEntries c]

/-! ### Atoms -/

/-- A constant that is a keyword. -/
def keywordConstant : Parser Expr := first [
  spanned do let _ ← kw "True"; return fun l => .constant l (.bool true) false,
  spanned do let _ ← kw "False"; return fun l => .constant l (.bool false) false,
  spanned do let _ ← kw "None"; return fun l => .constant l .none false]

/-- A name, a constant or something in brackets. -/
def atom : Parser Expr := first [
  nameExpression,
  keywordConstant,
  do look (token (·.kind == .string)); c.strings,
  number,
  do look (op "("); first [tupleDisplay c, group c, generatorExpression c],
  do look (op "["); first [listDisplay c, listComprehension c],
  do look (op "\x7b")
     first [dictDisplay c, setDisplay c, dictComprehension c, setComprehension c],
  spanned do let _ ← op "..."; return fun l => .constant l .ellipsis false]

/-! ### Subscripts -/

/-- An index or a slice. -/
def sliceOrIndex : Parser Expr := first [
  spanned do
    let lower ← optional c.expression
    let _ ← op ":"
    let upper ← optional c.expression
    let step ← optional do let _ ← op ":"; optional c.expression
    return fun l => .slice l lower upper (step.getD none),
  c.namedExpression]

/-- What stands in the brackets of a subscript: several slices are a tuple. -/
def slices : Parser Expr := first [
  do let s ← sliceOrIndex c
     notLook (op ",")
     return s,
  spanned do
    let es ← sepBy1 "," (first [sliceOrIndex c, starredExpression c])
    let _ ← optional (op ",")
    return fun l => .tuple l es]

end Lineage.Source.Grammar
