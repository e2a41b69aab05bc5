import Lineage.Source.Grammar.Argument

/-!
Targets of assignments, loops, `with` items and `del`.
-/

namespace Lineage.Source.Grammar

open Lineage.Source.Grammar.Parser

variable (c : Call)

/-- What may follow the inner part of a target. -/
def targetContinues : Parser Token := first [op "(", op "[", op "."]

/-- The part of a target before its last attribute or subscript. -/
def targetPrimaryRule : Parser Expr := do
  let start ← startLine
  let seed : Parser Expr := do
    let a ← atom c
    look targetContinues
    return a
  let step (a : Expr) : Parser Expr := first [
    do let _ ← op "."
       let n ← name
       look targetContinues
       return .attr (← linesFrom start) a n,
    do let _ ← op "["
       let i ← slices c
       let _ ← op "]"
       look targetContinues
       return .subscript (← linesFrom start) a i,
    do let g ← generatorExpression c
       look targetContinues
       return .call (← linesFrom start) a [g] [],
    do let _ ← op "("
       let args ← optional c.arguments
       let _ ← op ")"
       look targetContinues
       return callOf (← linesFrom start) a args]
  grow seed step

/-- A target that ends in an attribute or a subscript. -/
def attributeOrSubscript : Parser Expr := first [
  spanned do
    let a ← c.targetPrimary
    let _ ← op "."
    let n ← name
    notLook targetContinues
    return fun l => .attr l a n,
  spanned do
    let a ← c.targetPrimary
    let _ ← op "["
    let i ← slices c
    let _ ← op "]"
    notLook targetContinues
    return fun l => .subscript l a i]

/-- Two targets or more with commas between them, or one with a comma after it. -/
def targetTuple : Parser (List Expr) := first [
  do let a ← c.starTarget
     let rest ← many1 do let _ ← op ","; c.starTarget
     let _ ← optional (op ",")
     return a :: rest,
  do let a ← c.starTarget
     let _ ← op ","
     return [a]]

/-- Targets of a list. -/
def targetList : Parser (List Expr) := do
  let ts ← sepBy1 "," c.starTarget
  let _ ← optional (op ",")
  return ts

/-- A name or bracketed targets. -/
def targetAtom : Parser Expr := first [
  nameExpression,
  do let _ ← op "("
     let a ← c.targetWithStarAtom
     let _ ← op ")"
     return a,
  spanned do
    let _ ← op "("
    let ts ← optional (targetTuple c)
    let _ ← op ")"
    return fun l => .tuple l (ts.getD []),
  spanned do
    let _ ← op "["
    let ts ← optional (targetList c)
    let _ ← op "]"
    return fun l => .list l (ts.getD [])]

/-- A target without a star of its own. -/
def targetWithStarAtomRule : Parser Expr := (attributeOrSubscript c) <|> targetAtom c

/-- A target, starred or not. -/
def starTargetRule : Parser Expr := first [
  spanned do
    let _ ← op "*"
    notLook (op "*")
    let t ← c.starTarget
    return fun l => .starred l t,
  c.targetWithStarAtom]

/-- A target that is no list. -/
def singleTargetRule : Parser Expr := first [
  attributeOrSubscript c,
  nameExpression,
  do let _ ← op "("
     let t ← c.singleTarget
     let _ ← op ")"
     return t]

/-- The targets of `del`, with commas between them. -/
def deleteTargets : Parser (List Expr) := do
  let ts ← sepBy1 "," c.deleteTarget
  let _ ← optional (op ",")
  return ts

/-- A target of `del`. -/
def deleteTargetRule : Parser Expr := first [
  attributeOrSubscript c,
  nameExpression,
  do let _ ← op "("
     let t ← c.deleteTarget
     let _ ← op ")"
     return t,
  spanned do
    let _ ← op "("
    let ts ← optional (deleteTargets c)
    let _ ← op ")"
    return fun l => .tuple l (ts.getD []),
  spanned do
    let _ ← op "["
    let ts ← optional (deleteTargets c)
    let _ ← op "]"
    return fun l => .list l (ts.getD [])]

end Lineage.Source.Grammar
