import Lineage.Source.Grammar.Display

/-!
Parameter lists of functions and of lambdas. The two differ in the token after the list and in that
only functions have annotations.
-/

namespace Lineage.Source.Grammar

open Lineage.Source.Grammar.Parser

variable (c : Call)

/-- A kind of parameter list: the token after it, and whether parameters may be annotated. -/
structure ParamStyle where
  closing : String
  annotated : Bool

/-- The parameters of a function. -/
def functionStyle : ParamStyle := ⟨")", true⟩

/-- The parameters of a lambda. -/
def lambdaStyle : ParamStyle := ⟨":", false⟩

variable (s : ParamStyle)

/-- The end of a parameter: a comma, or the end of the list ahead. -/
def paramEnd : Parser Unit := first [
  do let _ ← op ","; return (),
  look (op s.closing)]

/-- A parameter with its annotation. -/
def param : Parser Param := spanned do
  let n ← name
  let a ← if s.annotated then optional do let _ ← op ":"; c.expression else pure none
  return fun l => .mk l n a

/-- A parameter whose annotation is starred. -/
def paramStarAnnotation : Parser Param := spanned do
  if !s.annotated then fail
  let n ← name
  let _ ← op ":"
  let a ← c.starExpression
  return fun l => .mk l n (some a)

/-- The default of a parameter. -/
def paramDefault : Parser Expr := first [
  do let _ ← op "="; c.expression,
  diagnose (commit (do let a ← op "="; look (first [op ")", op ","]); return a)
    (fun a => raiseAt a.first "expected default value expression") fail)]

/-- A parameter without a default. -/
def paramNoDefault : Parser Param := do
  let p ← param c s
  paramEnd s
  return p

/-- A parameter with a default. -/
def paramWithDefault : Parser (Param × Expr) := do
  let p ← param c s
  let d ← paramDefault c
  paramEnd s
  return (p, d)

/-- A parameter with or without a default. -/
def paramMaybeDefault : Parser (Param × Option Expr) := do
  let p ← param c s
  let d ← optional (paramDefault c)
  paramEnd s
  return (p, d)

/-- The slash after the positional-only parameters. -/
def slash : Parser Unit := do
  let _ ← op "/"
  paramEnd s

/-- Positional-only parameters, none with a default. -/
def slashNoDefault : Parser (List Param) := do
  let ps ← many1 (paramNoDefault c s)
  slash s
  return ps

/-- Positional-only parameters, the last ones with defaults. -/
def slashWithDefault : Parser (List Param × List (Param × Expr)) := do
  let ps ← many (paramNoDefault c s)
  let ds ← many1 (paramWithDefault c s)
  slash s
  return (ps, ds)

/-- The end of a parameter list from its star on. -/
structure StarTail where
  rest : Option Param := none
  keywordOnly : List (Param × Option Expr) := []
  keywordRest : Option Param := none

/-- Parameters that may not follow the one for further keyword arguments. -/
def invalidKeywordRest {α : Type} : Parser α :=
  let after := "arguments cannot follow var-keyword argument"
  commit (do let _ ← op "**"; let _ ← param c s; op "=")
    (fun a => raiseAt a.first "var-keyword argument cannot have default value")
  (commit (do let _ ← op "**"; let _ ← param c s; let _ ← op ","; param c s)
    (fun a => raiseAt a.lines.first after)
  (commit (do
      let _ ← op "**"
      let _ ← param c s
      let _ ← op ","
      first [op "*", op "**", op "/"])
    (fun a => raiseAt a.first after) fail))

/-- The parameter for further keyword arguments. -/
def keywordRest : Parser Param := first [
  diagnose (invalidKeywordRest c s),
  do let _ ← op "**"; paramNoDefault c s]

/-- Faults behind a star. -/
def invalidStarTail {α : Type} : Parser α :=
  let bare := "named arguments must follow bare *"
  let plain : Parser Unit := first [
    do let _ ← paramNoDefault c s; return (),
    do let _ ← op ","; return ()]
  commit (do
      let a ← op "*"
      let _ ← first [
        op s.closing,
        do let _ ← op ","; first [op s.closing, op "**"]]
      return a)
    (fun a => if s.annotated then raiseAt a.first bare else raiseLast bare)
  (commit (do let _ ← op "*"; let _ ← param c s; op "=")
    (fun a => raiseAt a.first "var-positional argument cannot have default value")
  (commit (do
      let _ ← op "*"
      plain
      let _ ← many (paramMaybeDefault c s)
      let a ← op "*"
      plain
      return a)
    (fun a => raiseAt a.first "* argument may appear only once") fail))

/-- The parameters from a star on. -/
def starTail : Parser StarTail := first [
  diagnose (invalidStarTail c s),
  do let _ ← op "*"
     let rest ← paramNoDefault c s
     let ks ← many (paramMaybeDefault c s)
     return ⟨some rest, ks, ← optional (keywordRest c s)⟩,
  do let _ ← op "*"
     let rest ← paramStarAnnotation c s
     paramEnd s
     let ks ← many (paramMaybeDefault c s)
     return ⟨some rest, ks, ← optional (keywordRest c s)⟩,
  do let _ ← op "*"
     let _ ← op ","
     let ks ← many1 (paramMaybeDefault c s)
     return ⟨none, ks, ← optional (keywordRest c s)⟩,
  do return ⟨none, [], some (← keywordRest c s)⟩]

/-- Puts a parameter list together. -/
def paramsOf (positionalOnly positional : List Param) (defaults : List Expr)
    (tail : Option StarTail) : Params :=
  let t := tail.getD {}
  .mk positionalOnly positional t.rest (t.keywordOnly.map (·.1)) (t.keywordOnly.map (·.2))
    t.keywordRest defaults

/-- Parameters in an order that is not allowed. -/
def invalidParams {α : Type} : Parser α :=
  let slashed : Parser Unit := first [
    do let _ ← slashNoDefault c s; return (),
    do let _ ← slashWithDefault c s; return ()]
  let bracketed : Parser Token :=
    if s.annotated then do
      let a ← op "("
      let _ ← many1 (paramNoDefault c s)
      let _ ← optional (op ",")
      let _ ← op ")"
      return a
    else do
      let a ← op "("
      let _ ← sepBy1 "," (param c s)
      let _ ← optional (op ",")
      let _ ← op ")"
      return a
  commit (do
      let _ ← many (paramNoDefault c s)
      let _ ← first [
        do let _ ← slashWithDefault c s; return (),
        do let _ ← many1 (paramWithDefault c s); return ()]
      paramNoDefault c s)
    (fun a => raiseAt a.lines.first "non-default argument follows default argument")
  (commit (do let _ ← many (paramNoDefault c s); bracketed)
    (fun a => raiseAt a.first (if s.annotated then "Function parameters cannot be parenthesized"
      else "Lambda expression parameters cannot be parenthesized"))
  (commit (do let a ← op "/"; let _ ← op ","; return a)
    (fun a => raiseAt a.first "at least one argument must precede /")
  (commit (do slashed; let _ ← many (paramMaybeDefault c s); op "/")
    (fun a => raiseAt a.first "/ may appear only once")
  (commit (do
      let _ ← optional slashed
      let _ ← many (paramMaybeDefault c s)
      let _ ← op "*"
      let _ ← first [
        do let _ ← op ","; return (),
        do let _ ← paramNoDefault c s; return ()]
      let _ ← many (paramMaybeDefault c s)
      op "/")
    (fun a => raiseAt a.first "/ must be ahead of *")
  (commit (do let _ ← many1 (paramMaybeDefault c s); let _ ← op "/"; op "*")
    (fun a => raiseAt a.first "expected comma between / and *") fail)))))

/-- A parameter list. -/
def params : Parser Params := first [
  diagnose (invalidParams c s),
  do let a ← slashNoDefault c s
     let b ← many (paramNoDefault c s)
     let d ← many (paramWithDefault c s)
     let t ← optional (starTail c s)
     return paramsOf a (b ++ d.map (·.1)) (d.map (·.2)) t,
  do let (a, e) ← slashWithDefault c s
     let d ← many (paramWithDefault c s)
     let t ← optional (starTail c s)
     return paramsOf (a ++ e.map (·.1)) (d.map (·.1)) (e.map (·.2) ++ d.map (·.2)) t,
  do let b ← many1 (paramNoDefault c s)
     let d ← many (paramWithDefault c s)
     let t ← optional (starTail c s)
     return paramsOf [] (b ++ d.map (·.1)) (d.map (·.2)) t,
  do let d ← many1 (paramWithDefault c s)
     let t ← optional (starTail c s)
     return paramsOf [] (d.map (·.1)) (d.map (·.2)) t,
  do let t ← starTail c s
     return paramsOf [] [] [] (some t)]

end Lineage.Source.Grammar
