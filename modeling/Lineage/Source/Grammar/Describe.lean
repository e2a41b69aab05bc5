import Lineage.Source.Grammar.Basic

/-!
How faults name the expressions they complain about, and which part of an expression cannot be a
target.
-/

namespace Lineage.Source

/-- The word for an expression in a fault. -/
def Expr.description : Expr → String
  | .attr .. => "attribute"
  | .subscript .. => "subscript"
  | .starred .. => "starred"
  | .name .. => "name"
  | .list .. => "list"
  | .tuple .. => "tuple"
  | .lambda .. => "lambda"
  | .call .. => "function call"
  | .boolOp .. | .binary .. | .unary .. => "expression"
  | .generator .. => "generator expression"
  | .yield .. | .yieldFrom .. => "yield expression"
  | .await .. => "await expression"
  | .listComp .. => "list comprehension"
  | .setComp .. => "set comprehension"
  | .dictComp .. => "dict comprehension"
  | .dict .. => "dict literal"
  | .set .. => "set display"
  | .joined .. | .formatted .. => "f-string expression"
  | .constant _ value _ =>
    match value with
    | .none => "None"
    | .bool true => "True"
    | .bool false => "False"
    | .ellipsis => "ellipsis"
    | _ => "literal"
  | .compare .. => "comparison"
  | .ifExp .. => "conditional expression"
  | .named .. => "named expression"
  | .slice .. => "slice"

namespace Grammar

/-- What a target is for: assignment, deletion or a loop. -/
inductive TargetUse where
  | assign
  | delete
  | loop
  deriving DecidableEq

mutual

/-- The part of an expression that keeps it from being a target. In a loop only the left side of a
membership test counts. -/
def invalidTarget? (use : TargetUse) : Expr → Option Expr
  | .list _ es | .tuple _ es => invalidTargetIn? use es
  | .starred l e => if use = .delete then some (.starred l e) else invalidTarget? use e
  | .compare l left ops rights =>
    if use = .loop then
      if ops.head? = some .isIn then invalidTarget? use left else none
    else some (.compare l left ops rights)
  | .name .. | .subscript .. | .attr .. => none
  | e => some e

/-- The first such part of several expressions. -/
def invalidTargetIn? (use : TargetUse) : List Expr → Option Expr
  | [] => none
  | e :: es =>
    match invalidTarget? use e with
    | some bad => some bad
    | none => invalidTargetIn? use es

end

/-- Raises a fault for an expression that is no target. A valid target fails. -/
def raiseInvalidTarget {α : Type} (use : TargetUse) (e : Expr) : Parser α :=
  match invalidTarget? use e with
  | some bad =>
    let verb := if use = .delete then "cannot delete " else "cannot assign to "
    Parser.raiseAt bad.lines.first (verb ++ bad.description)
  | none => Parser.fail

end Grammar

end Lineage.Source
