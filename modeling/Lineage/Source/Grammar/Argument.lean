import Lineage.Source.Grammar.Display

/-!
Arguments of calls and of class declarations.
-/

namespace Lineage.Source.Grammar

open Lineage.Source.Grammar.Parser

variable (c : Call)

/-- A call with the arguments that were found. -/
def callOf (lines : LineRange) (func : Expr) (args : Option Args) : Expr :=
  match args with
  | some a => .call lines func a.positional a.keywords
  | none => .call lines func [] []

/-- An argument after the first keyword: an unpacked sequence, or a keyword argument. -/
inductive LateArg where
  | unpacked (e : Expr)
  | keyword (k : Keyword)

/-- The unpacked sequences among late arguments. -/
def LateArg.positional (args : List LateArg) : List Expr :=
  args.filterMap fun
    | .unpacked e => some e
    | .keyword _ => none

/-- The keyword arguments among late arguments. -/
def LateArg.keywords (args : List LateArg) : List Keyword :=
  args.filterMap fun
    | .unpacked _ => none
    | .keyword k => some k

/-- The message for a keyword argument where a comparison was meant. -/
def meantComparison : String := "invalid syntax. Maybe you meant '==' or ':=' instead of '='?"

/-- A keyword argument whose keyword is no name. -/
def invalidKeyword {α : Type} : Parser α :=
  commit (do
      let a ← first [kw "True", kw "False", kw "None"]
      let _ ← op "="
      return a)
    (fun a => raiseAt a.first ("cannot assign to " ++ a.text))
  (commit (do
      let a ← nameExpression
      let _ ← op "="
      let _ ← c.expression
      let _ ← forIfClauses c
      return a)
    (fun a => raiseAt a.lines.first meantComparison)
  (commit (do
      notLook do let _ ← name; op "="
      let a ← c.expression
      let _ ← op "="
      return a)
    (fun a => raiseAt a.lines.first
      "expression cannot contain assignment, perhaps you meant \"==\"?") fail))

/-- A keyword argument. -/
def keywordArgument : Parser LateArg := spanned do
  let n ← name
  let _ ← op "="
  let e ← c.expression
  return fun l => .keyword (.mk l (some n) e)

/-- A keyword argument or an unpacked sequence. -/
def keywordOrStarred : Parser LateArg := first [
  diagnose (invalidKeyword c),
  keywordArgument c,
  do return .unpacked (← starredExpression c)]

/-- A keyword argument or an unpacked mapping. -/
def keywordOrDoubleStarred : Parser LateArg := first [
  diagnose (invalidKeyword c),
  keywordArgument c,
  spanned do
    let _ ← op "**"
    let e ← c.expression
    return fun l => .keyword (.mk l none e)]

/-- The arguments from the first keyword on: sequences may be unpacked before mappings only. -/
def lateArguments : Parser (List LateArg) := first [
  do let a ← sepBy1 "," (keywordOrStarred c)
     let _ ← op ","
     return a ++ (← sepBy1 "," (keywordOrDoubleStarred c)),
  sepBy1 "," (keywordOrStarred c),
  sepBy1 "," (keywordOrDoubleStarred c)]

/-- Arguments without a comma at the end. -/
def plainArguments : Parser Args := first [
  spanned do
    let es ← sepBy1 "," (first [
      starredExpression c,
      do let e ← first [assignmentExpression c, plainExpression c]
         notLook (op "=")
         return e])
    let late ← optional do let _ ← op ","; lateArguments c
    let late := late.getD []
    return fun l => ⟨l, es ++ LateArg.positional late, LateArg.keywords late⟩,
  spanned do
    let late ← lateArguments c
    return fun l => ⟨l, LateArg.positional late, LateArg.keywords late⟩]

/-- The message for a comprehension among other arguments. -/
def bareGenerator : String := "Generator expression must be parenthesized"

/-- Arguments in an order that is not allowed, and comprehensions without parentheses. -/
def invalidArguments {α : Type} : Parser α :=
  commit (do let a ← plainArguments c; let _ ← op ","; let _ ← op "*"; return a)
    (fun a => raiseAt a.lines.first
      "iterable argument unpacking follows keyword argument unpacking")
  (commit (do
      let a ← c.expression
      let _ ← forIfClauses c
      let _ ← op ","
      let _ ← optional (first [
        do let _ ← plainArguments c; return (),
        do let _ ← c.expression; let _ ← forIfClauses c; return ()])
      return a)
    (fun a => raiseAt a.lines.first bareGenerator)
  (commit (do
      let a ← nameExpression
      let _ ← op "="
      let _ ← c.expression
      let _ ← forIfClauses c
      return a)
    (fun a => raiseAt a.lines.first meantComparison)
  (commit (do let a ← plainArguments c; let _ ← forIfClauses c; return a)
    (fun a => match a.positional with
      | _ :: e :: es => raiseAt ((e :: es).getLastD e).lines.first bareGenerator
      | _ => fail)
  (commit (do
      let _ ← plainArguments c
      let _ ← op ","
      let a ← c.expression
      let _ ← forIfClauses c
      return a)
    (fun a => raiseAt a.lines.first bareGenerator)
  (commit (do let a ← plainArguments c; let _ ← op ","; let _ ← plainArguments c; return a)
    (fun a => raiseLast (if a.keywords.any (·.name?.isNone)
      then "positional argument follows keyword argument unpacking"
      else "positional argument follows keyword argument")) fail)))))

/-- The arguments of a call up to its closing parenthesis. -/
def argumentsRule : Parser Args := first [
  do let a ← plainArguments c
     let _ ← optional (op ",")
     look (op ")")
     return a,
  diagnose (invalidArguments c)]

end Lineage.Source.Grammar
