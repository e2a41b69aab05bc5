import Lineage.Source.Literal
import Lineage.Tree.Outline

/-!
Syntax as outlines. A node is labelled with its class; its children are its parts in the order of
the abstract grammar. Names of declarations are left out, so a renamed declaration with an unchanged
body keeps its digest; names in use, attributes, constants, parameters, keywords and imports are
kept as values.
-/

namespace Lineage.Source

open Outline (interned)

/-- The class of a logical operator. -/
def BoolOp.label : BoolOp → String
  | and => "And"
  | or => "Or"

/-- The class of a binary operator. -/
def BinaryOp.label : BinaryOp → String
  | add => "Add"
  | sub => "Sub"
  | mult => "Mult"
  | matMult => "MatMult"
  | div => "Div"
  | mod => "Mod"
  | pow => "Pow"
  | lShift => "LShift"
  | rShift => "RShift"
  | bitOr => "BitOr"
  | bitXor => "BitXor"
  | bitAnd => "BitAnd"
  | floorDiv => "FloorDiv"

/-- The class of a unary operator. -/
def UnaryOp.label : UnaryOp → String
  | invert => "Invert"
  | not => "Not"
  | plus => "UAdd"
  | minus => "USub"

/-- The class of a comparison operator. -/
def CompareOp.label : CompareOp → String
  | eq => "Eq"
  | notEq => "NotEq"
  | lt => "Lt"
  | ltE => "LtE"
  | gt => "Gt"
  | gtE => "GtE"
  | is => "Is"
  | isNot => "IsNot"
  | isIn => "In"
  | notIn => "NotIn"

/-- A node with lines. -/
def placed (l : LineRange) (label value : String) (children : List Outline) : Outline :=
  .node label value (some l) children

/-- A node without lines of its own. -/
def unplaced (label : String) (children : List Outline) : Outline := .node label "" none children

mutual

/-- The outline of an expression. -/
def Expr.outline : Expr → Outline
  | .boolOp l o values => placed l "BoolOp" "" (interned o.label :: outlines values)
  | .named l target value => placed l "NamedExpr" "" [target.outline, value.outline]
  | .binary l left o right => placed l "BinOp" "" [left.outline, interned o.label, right.outline]
  | .unary l o operand => placed l "UnaryOp" "" [interned o.label, operand.outline]
  | .lambda l params body => placed l "Lambda" "" [params.outline, body.outline]
  | .ifExp l test body orElse => placed l "IfExp" "" [test.outline, body.outline, orElse.outline]
  | .dict l keys values => placed l "Dict" "" (presentOutlines keys ++ outlines values)
  | .set l elements => placed l "Set" "" (outlines elements)
  | .listComp l e generators => placed l "ListComp" "" (e.outline :: clauseOutlines generators)
  | .setComp l e generators => placed l "SetComp" "" (e.outline :: clauseOutlines generators)
  | .dictComp l k v generators =>
    placed l "DictComp" "" (k.outline :: v.outline :: clauseOutlines generators)
  | .generator l e generators => placed l "GeneratorExp" "" (e.outline :: clauseOutlines generators)
  | .await l value => placed l "Await" "" [value.outline]
  | .yield l value => placed l "Yield" "" (optionalOutline value)
  | .yieldFrom l value => placed l "YieldFrom" "" [value.outline]
  | .compare l left ops comparators =>
    placed l "Compare" ""
      (left.outline :: (ops.map (interned ·.label) ++ outlines comparators))
  | .call l func args keywords =>
    placed l "Call" "" (func.outline :: (outlines args ++ keywordOutlines keywords))
  | .formatted l value _ spec =>
    placed l "FormattedValue" "" (value.outline :: optionalOutline spec)
  | .joined l values => placed l "JoinedStr" "" (outlines values)
  | .constant l value _ => placed l "Constant" value.repr []
  | .attr l value name => placed l "Attribute" name [value.outline]
  | .subscript l value index => placed l "Subscript" "" [value.outline, index.outline]
  | .starred l value => placed l "Starred" "" [value.outline]
  | .name l id => placed l "Name" id []
  | .list l elements => placed l "List" "" (outlines elements)
  | .tuple l elements => placed l "Tuple" "" (outlines elements)
  | .slice l lower upper step =>
    placed l "Slice" "" (optionalOutline lower ++ optionalOutline upper ++ optionalOutline step)

/-- The outlines of expressions. -/
def outlines : List Expr → List Outline
  | [] => []
  | e :: es => e.outline :: outlines es

/-- The outline of an expression that may be missing. -/
def optionalOutline : Option Expr → List Outline
  | none => []
  | some e => [e.outline]

/-- The outlines of those expressions that are not missing. -/
def presentOutlines : List (Option Expr) → List Outline
  | [] => []
  | e :: es => optionalOutline e ++ presentOutlines es

/-- The outlines of the clauses of a comprehension. -/
def clauseOutlines : List Comprehension → List Outline
  | [] => []
  | .mk target source conditions _ :: rest =>
    unplaced "comprehension" (target.outline :: source.outline :: outlines conditions)
      :: clauseOutlines rest

/-- The outlines of keyword arguments. -/
def keywordOutlines : List Keyword → List Outline
  | [] => []
  | .mk l name value :: rest =>
    placed l "keyword" (name.getD "") [value.outline] :: keywordOutlines rest

/-- The outline of a parameter. -/
def Param.outline : Param → Outline
  | .mk l name hint => placed l "arg" name (optionalOutline hint)

/-- The outlines of parameters. -/
def paramOutlines : List Param → List Outline
  | [] => []
  | p :: ps => p.outline :: paramOutlines ps

/-- The outline of a parameter that may be missing. -/
def optionalParamOutline : Option Param → List Outline
  | none => []
  | some p => [p.outline]

/-- The outline of a parameter list. -/
def Params.outline : Params → Outline
  | .mk positionalOnly positional rest keywordOnly keywordDefaults keywordRest defaults =>
    unplaced "arguments" (paramOutlines positionalOnly ++ paramOutlines positional
      ++ optionalParamOutline rest ++ paramOutlines keywordOnly ++ presentOutlines keywordDefaults
      ++ optionalParamOutline keywordRest ++ outlines defaults)

end

mutual

/-- The outline of a pattern. -/
def Pattern.outline : Pattern → Outline
  | .value l value => placed l "MatchValue" "" [value.outline]
  | .singleton l _ => placed l "MatchSingleton" "" []
  | .sequence l ps => placed l "MatchSequence" "" (patternOutlines ps)
  | .mapping l keys ps _ => placed l "MatchMapping" "" (outlines keys ++ patternOutlines ps)
  | .object l cls ps _ named =>
    placed l "MatchClass" "" (cls.outline :: (patternOutlines ps ++ patternOutlines named))
  | .star l _ => placed l "MatchStar" "" []
  | .capture l none _ => placed l "MatchAs" "" []
  | .capture l (some p) _ => placed l "MatchAs" "" [p.outline]
  | .alternatives l ps => placed l "MatchOr" "" (patternOutlines ps)

/-- The outlines of patterns. -/
def patternOutlines : List Pattern → List Outline
  | [] => []
  | p :: ps => p.outline :: patternOutlines ps

end

/-- The outline of an imported name. -/
def Alias.outline (a : Alias) : Outline := placed a.lines "alias" a.name []

/-- The outline of a context manager. -/
def WithItem.outline (w : WithItem) : Outline :=
  unplaced "withitem" (w.context.outline :: optionalOutline w.target)

mutual

/-- The outline of a statement. -/
def Stmt.outline : Stmt → Outline
  | .function l isAsync _ params body decorators returns =>
    placed l (if isAsync then "AsyncFunctionDef" else "FunctionDef") ""
      (params.outline :: (stmtOutlines body ++ outlines decorators ++ optionalOutline returns))
  | .classDef l _ bases keywords body decorators =>
    placed l "ClassDef" ""
      (outlines bases ++ keywordOutlines keywords ++ stmtOutlines body ++ outlines decorators)
  | .returnValue l value => placed l "Return" "" (optionalOutline value)
  | .delete l targets => placed l "Delete" "" (outlines targets)
  | .assign l targets value => placed l "Assign" "" (outlines targets ++ [value.outline])
  | .augAssign l target o value =>
    placed l "AugAssign" "" [target.outline, interned o.label, value.outline]
  | .annAssign l target hint value _ =>
    placed l "AnnAssign" "" (target.outline :: hint.outline :: optionalOutline value)
  | .forLoop l isAsync target source body orElse =>
    placed l (if isAsync then "AsyncFor" else "For") ""
      (target.outline :: source.outline :: (stmtOutlines body ++ stmtOutlines orElse))
  | .whileLoop l test body orElse =>
    placed l "While" "" (test.outline :: (stmtOutlines body ++ stmtOutlines orElse))
  | .conditional l test body orElse =>
    placed l "If" "" (test.outline :: (stmtOutlines body ++ stmtOutlines orElse))
  | .withBlock l isAsync items body =>
    placed l (if isAsync then "AsyncWith" else "With") ""
      (items.map WithItem.outline ++ stmtOutlines body)
  | .matchBlock l subject cases => placed l "Match" "" (subject.outline :: caseOutlines cases)
  | .raiseError l error cause =>
    placed l "Raise" "" (optionalOutline error ++ optionalOutline cause)
  | .tryBlock l isStar body handlers orElse finish =>
    placed l (if isStar then "TryStar" else "Try") ""
      (stmtOutlines body ++ handlerOutlines handlers ++ stmtOutlines orElse ++ stmtOutlines finish)
  | .assertion l test message => placed l "Assert" "" (test.outline :: optionalOutline message)
  | .importNames l names => placed l "Import" "" (names.map Alias.outline)
  | .importFrom l module names _ =>
    placed l "ImportFrom" (module.getD "") (names.map Alias.outline)
  | .globalNames l names => placed l "Global" (",".intercalate names) []
  | .nonlocalNames l names => placed l "Nonlocal" (",".intercalate names) []
  | .expression l value => placed l "Expr" "" [value.outline]
  | .pass l => placed l "Pass" "" []
  | .breakLoop l => placed l "Break" "" []
  | .continueLoop l => placed l "Continue" "" []

/-- The outlines of statements. -/
def stmtOutlines : List Stmt → List Outline
  | [] => []
  | s :: ss => s.outline :: stmtOutlines ss

/-- The outlines of `except` clauses. -/
def handlerOutlines : List Handler → List Outline
  | [] => []
  | .mk l type _ body :: rest =>
    placed l "ExceptHandler" "" (optionalOutline type ++ stmtOutlines body) :: handlerOutlines rest

/-- The outlines of `case` clauses. -/
def caseOutlines : List MatchCase → List Outline
  | [] => []
  | .mk pattern guard body :: rest =>
    unplaced "match_case" (pattern.outline :: (optionalOutline guard ++ stmtOutlines body))
      :: caseOutlines rest

end

/-- The outline of a file. -/
def fileOutline (body : List Stmt) : Outline := unplaced "Module" (stmtOutlines body)

end Lineage.Source
