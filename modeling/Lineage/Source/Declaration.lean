import Lineage.Source.Printer

/-!
What statements declare: the names they bind, and the signatures of functions and blocks as texts.
A signature needs the text of expressions, which one that nests too deeply does not have.
-/

namespace Lineage.Source

/-- An expression that has no text. -/
inductive TextFault where
  | tooDeep
  | backslash
  deriving DecidableEq, Repr

mutual

/-- The names in a target, from left to right. Attributes and subscripts bind no name. -/
def targetNames : Expr → List String
  | .name _ id => [id]
  | .tuple _ elements => targetNamesOf elements
  | .list _ elements => targetNamesOf elements
  | .starred _ value => targetNames value
  | _ => []

/-- The names in several targets. -/
def targetNamesOf : List Expr → List String
  | [] => []
  | e :: es => targetNames e ++ targetNamesOf es

end

/-- The name of an attribute of `self`. -/
def ownAttribute? : Expr → Option String
  | .attr _ (.name _ id) name => if id == "self" then some name else none
  | _ => none

namespace Stmt

/-- The names that an assignment binds. -/
def boundNames : Stmt → List String
  | assign _ targets _ => targetNamesOf targets
  | annAssign _ (.name _ id) _ _ _ => [id]
  | _ => []

/-- The type hint of an assignment that binds a name. -/
def boundHint? : Stmt → Option Expr
  | annAssign _ (.name _ _) hint _ _ => some hint
  | _ => none

/-- The attributes of `self` that an assignment binds. -/
def ownAttributes : Stmt → List String
  | assign _ targets _ => targets.filterMap ownAttribute?
  | annAssign _ target _ _ _ => (ownAttribute? target).toList
  | _ => []

/-- The type hint of an assignment to anything. -/
def hint? : Stmt → Option Expr
  | annAssign _ _ hint _ _ => some hint
  | _ => none

/-- The word for a statement that is a block. -/
def blockType? : Stmt → Option String
  | conditional .. => some "if"
  | forLoop _ isAsync .. => some (if isAsync then "async for" else "for")
  | whileLoop .. => some "while"
  | withBlock _ isAsync .. => some (if isAsync then "async with" else "with")
  | tryBlock .. => some "try"
  | matchBlock .. => some "match"
  | _ => none

end Stmt

/-- A way to give texts to expressions. -/
abbrev TextOf : Type := Expr → Except TextFault String

variable (textOf : TextOf)

/-- A parameter with its type hint after a mark for its role. -/
def parameterText (mark : String) (p : Param) : Except TextFault String := do
  match p.hint with
  | some a => return mark ++ p.name ++ ": " ++ (← textOf a)
  | none => return mark ++ p.name

/-- The parameters of a function, without defaults. -/
def Params.texts : Params → Except TextFault (List String)
  | .mk positionalOnly positional rest keywordOnly _ keywordRest _ => do
    let plain ← (positionalOnly ++ positional).mapM (parameterText textOf "")
    let rest ← rest.toList.mapM (parameterText textOf "*")
    let keyed ← keywordOnly.mapM (parameterText textOf "")
    let last ← keywordRest.toList.mapM (parameterText textOf "**")
    return plain ++ rest ++ keyed ++ last

/-- A context manager with its target. -/
def WithItem.text (w : WithItem) : Except TextFault String := do
  match w.target with
  | some t => return (← textOf w.context) ++ " as " ++ (← textOf t)
  | none => textOf w.context

/-- The type that a clause handles; one that handles everything, or whose type has no text, is shown
as a star. -/
def Handler.typeText : Handler → Except TextFault String
  | .mk _ none _ _ => return "*"
  | .mk _ (some type) _ _ => do
    let s ← textOf type
    return if s.isEmpty then "*" else s

/-- What identifies a block: its condition, what it loops over, its context managers, what it matches
or what it handles. -/
def Stmt.header : Stmt → Except TextFault String
  | .conditional _ test _ _ | .whileLoop _ test _ _ => textOf test
  | .forLoop _ _ target source _ _ => do
    return (← textOf target) ++ " in " ++ (← textOf source)
  | .withBlock _ _ items _ => do
    return ", ".intercalate (← items.mapM (WithItem.text textOf))
  | .matchBlock _ subject _ => textOf subject
  | .tryBlock _ _ _ handlers _ _ => do
    return ", ".intercalate (← handlers.mapM (Handler.typeText textOf))
  | _ => return ""

end Lineage.Source
