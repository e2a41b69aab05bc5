import Lineage.Source.Grammar.Expression

/-!
Patterns of `case` clauses.
-/

namespace Lineage.Source.Grammar

open Lineage.Source.Grammar.Parser

variable (c : Call)

/-- A number with or without a minus sign. -/
def signedNumber : Parser Expr := first [
  number,
  spanned do
    let _ ← op "-"
    let n ← number
    return fun l => .unary l .minus n]

/-- A number that must not be imaginary. -/
def realNumber : Parser Expr := do
  match ← number with
  | .constant l (.imaginary _) _ => raiseAt l.first "real number required in complex literal"
  | n => return n

/-- A real number with or without a minus sign. -/
def signedRealNumber : Parser Expr := first [
  realNumber,
  spanned do
    let _ ← op "-"
    let n ← realNumber
    return fun l => .unary l .minus n]

/-- A number that must be imaginary. -/
def imaginaryNumber : Parser Expr := do
  match ← number with
  | .constant l (.imaginary x) m => return .constant l (.imaginary x) m
  | n => raiseAt n.lines.first "imaginary number required in complex literal"

/-- A sum of a real and an imaginary number. -/
def complexNumber : Parser Expr :=
  let sum (text : String) (o : BinaryOp) : Parser Expr := spanned do
    let a ← signedRealNumber
    let _ ← op text
    let b ← imaginaryNumber
    return fun l => .binary l a o b
  first [sum "+" .add, sum "-" .sub]

/-- A number or text as it may stand in a pattern. -/
def literalValue : Parser Expr := first [
  do let n ← signedNumber
     notLook (first [op "+", op "-"])
     return n,
  complexNumber,
  c.strings]

/-- A pattern that is a constant. -/
def literalPattern : Parser Pattern := first [
  spanned do
    let e ← literalValue c
    return fun l => .value l e,
  spanned do let _ ← kw "None"; return fun l => .singleton l .none,
  spanned do let _ ← kw "True"; return fun l => .singleton l (.bool true),
  spanned do let _ ← kw "False"; return fun l => .singleton l (.bool false)]

/-- A name that a pattern binds. -/
def captureTarget : Parser String := do
  notLook (soft "_")
  let n ← name
  notLook (first [op ".", op "(", op "="])
  return n

/-- A name or an attribute of one. -/
def nameOrAttribute : Parser Expr := do
  let start ← startLine
  grow nameExpression fun a => do
    let _ ← op "."
    let n ← name
    return .attr (← linesFrom start) a n

/-- An attribute of a name. -/
def dottedAttribute : Parser Expr := do
  match ← nameOrAttribute with
  | .attr l e n => return .attr l e n
  | _ => fail

/-- A pattern that compares with a named value. -/
def valuePattern : Parser Pattern := spanned do
  let e ← dottedAttribute
  notLook (first [op ".", op "(", op "="])
  return fun l => .value l e

/-- A starred pattern. -/
def starPatternRule : Parser Pattern := first [
  spanned do
    let _ ← op "*"
    let n ← captureTarget
    return fun l => .star l (some n),
  spanned do
    let _ ← op "*"
    let _ ← soft "_"
    return fun l => .star l none]

/-- An item of a sequence pattern. -/
def maybeStarPattern : Parser Pattern := first [c.starPattern, c.pattern]

/-- Items of a sequence pattern. -/
def sequenceItems : Parser (List Pattern) := do
  let ps ← sepBy1 "," (maybeStarPattern c)
  let _ ← optional (op ",")
  return ps

/-- Items of a sequence pattern with at least one comma. -/
def openSequence : Parser (List Pattern) := do
  let p ← maybeStarPattern c
  let _ ← op ","
  let ps ← optional (sequenceItems c)
  return p :: ps.getD []

/-- A sequence pattern in brackets. -/
def sequencePattern : Parser Pattern := first [
  spanned do
    let _ ← op "["
    let ps ← optional (sequenceItems c)
    let _ ← op "]"
    return fun l => .sequence l (ps.getD []),
  spanned do
    let _ ← op "("
    let ps ← optional (openSequence c)
    let _ ← op ")"
    return fun l => .sequence l (ps.getD [])]

/-- A key with its pattern. -/
def keyPattern : Parser (Expr × Pattern) := do
  let k ← first [literalValue c, keywordConstant, dottedAttribute]
  let _ ← op ":"
  return (k, ← c.pattern)

/-- The name for the remaining entries of a mapping. -/
def mappingRest : Parser String := do
  let _ ← op "**"
  captureTarget

/-- A mapping pattern. -/
def mappingPattern : Parser Pattern :=
  let close : Parser Unit := do
    let _ ← optional (op ",")
    let _ ← op "\x7d"
  first [
    spanned do
      let _ ← op "\x7b"
      let _ ← op "\x7d"
      return fun l => .mapping l [] [] none,
    spanned do
      let _ ← op "\x7b"
      let rest ← mappingRest
      close
      return fun l => .mapping l [] [] (some rest),
    spanned do
      let _ ← op "\x7b"
      let ks ← sepBy1 "," (keyPattern c)
      let _ ← op ","
      let rest ← mappingRest
      close
      return fun l => .mapping l (ks.map (·.1)) (ks.map (·.2)) (some rest),
    spanned do
      let _ ← op "\x7b"
      let ks ← sepBy1 "," (keyPattern c)
      close
      return fun l => .mapping l (ks.map (·.1)) (ks.map (·.2)) none]

/-- An attribute with its pattern. -/
def attributePattern : Parser (String × Pattern) := do
  let n ← name
  let _ ← op "="
  return (n, ← c.pattern)

/-- Positional patterns after patterns for attributes. -/
def invalidClassPattern {α : Type} : Parser α :=
  commit (do
      let _ ← nameOrAttribute
      let _ ← op "("
      let _ ← optional do let _ ← sepBy1 "," c.pattern; op ","
      let _ ← sepBy1 "," (attributePattern c)
      let _ ← op ","
      sepBy1 "," c.pattern)
    (fun ps => raiseAt ((ps.head?).elim 0 (·.lines.first))
      "positional patterns follow keyword patterns") fail

/-- A pattern for an object of a class. -/
def classPattern : Parser Pattern :=
  let close : Parser Unit := do
    let _ ← optional (op ",")
    let _ ← op ")"
  let build (e : Expr) (ps : List Pattern) (ks : List (String × Pattern)) (l : LineRange) :
      Pattern := .object l e ps (ks.map (·.1)) (ks.map (·.2))
  first [
    spanned do
      let e ← nameOrAttribute
      let _ ← op "("
      let _ ← op ")"
      return build e [] [],
    spanned do
      let e ← nameOrAttribute
      let _ ← op "("
      let ps ← sepBy1 "," c.pattern
      close
      return build e ps [],
    spanned do
      let e ← nameOrAttribute
      let _ ← op "("
      let ks ← sepBy1 "," (attributePattern c)
      close
      return build e [] ks,
    spanned do
      let e ← nameOrAttribute
      let _ ← op "("
      let ps ← sepBy1 "," c.pattern
      let _ ← op ","
      let ks ← sepBy1 "," (attributePattern c)
      close
      return build e ps ks,
    diagnose (invalidClassPattern c)]

/-- A pattern without alternatives. -/
def closedPatternRule : Parser Pattern := first [
  literalPattern c,
  spanned do
    let n ← captureTarget
    return fun l => .capture l none (some n),
  spanned do
    let _ ← soft "_"
    return fun l => .capture l none none,
  valuePattern,
  do let _ ← op "("
     let p ← c.pattern
     let _ ← op ")"
     return p,
  sequencePattern c,
  mappingPattern c,
  classPattern c]

/-- Patterns with bars between them. -/
def orPattern : Parser Pattern := do
  let start ← startLine
  let ps ← sepBy1 "|" c.closedPattern
  match ps with
  | [p] => return p
  | _ => return .alternatives (← linesFrom start) ps

/-- A name after `as` that cannot be bound. -/
def invalidAsPattern {α : Type} : Parser α :=
  commit (do let _ ← orPattern c; let _ ← kw "as"; soft "_")
    (fun a => raiseAt a.first "cannot use '_' as a target")
  (commit (do let _ ← orPattern c; let _ ← kw "as"; notLook name; c.expression)
    (fun a => raiseAt a.lines.first "invalid pattern target") fail)

/-- A pattern that may bind a name. -/
def patternRule : Parser Pattern := first [
  spanned do
    let p ← orPattern c
    let _ ← kw "as"
    let n ← captureTarget
    return fun l => .capture l (some p) (some n),
  diagnose (invalidAsPattern c),
  orPattern c]

/-- The pattern of a `case` clause; several items are a sequence. -/
def patterns : Parser Pattern := first [
  spanned do
    let ps ← openSequence c
    return fun l => .sequence l ps,
  c.pattern]

end Lineage.Source.Grammar
