import Lineage.Source.Outline
import Lineage.Proofs.Source.Ast
import Lineage.Proofs.Tree.Growth

/-!
# The abstract syntax of statements

`Stmt.ast` lists the fields of a statement and of all that it holds, in the order of the abstract
grammar and without lines. An operator stands in it as a node without fields, a constant with its
text, which becomes the value of the node, and in full, which does not. The outline of a statement
is one way to lay its ast out: `Stmt.shape_outline` says that it has the shape of the ast.
-/

namespace Lineage.Source

open Ast (inner holding)

/-! ### Expressions -/

theorem BoolOp.label_named (o : BoolOp) : '\x00' ∉ o.label.toList := by
  cases o <;> simp [label]

theorem BinaryOp.label_named (o : BinaryOp) : '\x00' ∉ o.label.toList := by
  cases o <;> simp [label]

theorem UnaryOp.label_named (o : UnaryOp) : '\x00' ∉ o.label.toList := by
  cases o <;> simp [label]

theorem CompareOp.label_named (o : CompareOp) : '\x00' ∉ o.label.toList := by
  cases o <;> simp [label]

/-- A field that says whether something holds. -/
def flag (b : Bool) : List String := [toString b]

/-- A constant in full: its type and what it consists of, which for a float are its bits. -/
def Literal.parts : Literal → List String
  | .none => ["NoneType"]
  | .bool b => ["bool", toString b]
  | .ellipsis => ["ellipsis"]
  | .int n => ["int", toString n]
  | .float x => ["float", toString x.toBits]
  | .imaginary x => ["complex", toString x.toBits]
  | .text points => "str" :: points.map toString
  | .bytes bs => "bytes" :: bs.map toString

mutual

/-- The ast of an expression. -/
def Expr.ast : Expr → Ast
  | .boolOp _ o values => inner "BoolOp" [[some (inner o.label [] o.label_named)], asts values]
  | .named _ target value => inner "NamedExpr" [[some target.ast], [some value.ast]]
  | .binary _ left o right =>
    inner "BinOp" [[some left.ast], [some (inner o.label [] o.label_named)], [some right.ast]]
  | .unary _ o operand =>
    inner "UnaryOp" [[some (inner o.label [] o.label_named)], [some operand.ast]]
  | .lambda _ params body => inner "Lambda" [[some params.ast], [some body.ast]]
  | .ifExp _ test body orElse => inner "IfExp" [[some test.ast], [some body.ast], [some orElse.ast]]
  | .dict _ keys values => inner "Dict" [optionalAsts keys, asts values]
  | .set _ elements => inner "Set" [asts elements]
  | .listComp _ e generators => inner "ListComp" [[some e.ast], clauseAsts generators]
  | .setComp _ e generators => inner "SetComp" [[some e.ast], clauseAsts generators]
  | .dictComp _ k v generators =>
    inner "DictComp" [[some k.ast], [some v.ast], clauseAsts generators]
  | .generator _ e generators => inner "GeneratorExp" [[some e.ast], clauseAsts generators]
  | .await _ value => inner "Await" [[some value.ast]]
  | .yield _ value => inner "Yield" [[optionalAst value]]
  | .yieldFrom _ value => inner "YieldFrom" [[some value.ast]]
  | .compare _ left ops comparators =>
    inner "Compare"
      [[some left.ast], ops.map fun o => some (inner o.label [] o.label_named), asts comparators]
  | .call _ func args keywords => inner "Call" [[some func.ast], asts args, keywordAsts keywords]
  | .formatted _ value conversion spec =>
    holding "FormattedValue" [] [conversion.toList.map Char.toString]
      [[some value.ast], [optionalAst spec]]
  | .joined _ values => inner "JoinedStr" [asts values]
  | .constant _ value unicodeMark =>
    holding "Constant" [value.repr] [value.parts, flag unicodeMark] []
  | .attr _ value name => holding "Attribute" [name] [] [[some value.ast]]
  | .subscript _ value index => inner "Subscript" [[some value.ast], [some index.ast]]
  | .starred _ value => inner "Starred" [[some value.ast]]
  | .name _ id => holding "Name" [id] [] []
  | .list _ elements => inner "List" [asts elements]
  | .tuple _ elements => inner "Tuple" [asts elements]
  | .slice _ lower upper step =>
    inner "Slice" [[optionalAst lower], [optionalAst upper], [optionalAst step]]

/-- The asts of expressions. -/
def asts : List Expr → List (Option Ast)
  | [] => []
  | e :: es => some e.ast :: asts es

/-- The ast of an expression that may be missing. -/
def optionalAst : Option Expr → Option Ast
  | none => none
  | some e => some e.ast

/-- The asts of expressions that may be missing. -/
def optionalAsts : List (Option Expr) → List (Option Ast)
  | [] => []
  | e :: es => optionalAst e :: optionalAsts es

/-- The asts of the clauses of a comprehension. -/
def clauseAsts : List Comprehension → List (Option Ast)
  | [] => []
  | .mk target source conditions isAsync :: rest =>
    some (holding "comprehension" [] [flag isAsync]
      [[some target.ast], [some source.ast], asts conditions]) :: clauseAsts rest

/-- The asts of keyword arguments. -/
def keywordAsts : List Keyword → List (Option Ast)
  | [] => []
  | .mk _ name value :: rest =>
    some (holding "keyword" name.toList [] [[some value.ast]]) :: keywordAsts rest

/-- The ast of a parameter. -/
def Param.ast : Param → Ast
  | .mk _ name hint => holding "arg" [name] [] [[optionalAst hint]]

/-- The asts of parameters. -/
def paramAsts : List Param → List (Option Ast)
  | [] => []
  | p :: ps => some p.ast :: paramAsts ps

/-- The ast of a parameter that may be missing. -/
def optionalParamAst : Option Param → Option Ast
  | none => none
  | some p => some p.ast

/-- The ast of a parameter list. -/
def Params.ast : Params → Ast
  | .mk positionalOnly positional rest keywordOnly keywordDefaults keywordRest defaults =>
    inner "arguments" [paramAsts positionalOnly, paramAsts positional, [optionalParamAst rest],
      paramAsts keywordOnly, optionalAsts keywordDefaults, [optionalParamAst keywordRest],
      asts defaults]

end

/-! ### Patterns -/

mutual

/-- The ast of a pattern. -/
def Pattern.ast : Pattern → Ast
  | .value _ value => inner "MatchValue" [[some value.ast]]
  | .singleton _ value => holding "MatchSingleton" [] [value.parts] []
  | .sequence _ ps => inner "MatchSequence" [patternAsts ps]
  | .mapping _ keys ps rest =>
    holding "MatchMapping" [] [rest.toList] [asts keys, patternAsts ps]
  | .object _ cls ps names named =>
    holding "MatchClass" [] [names] [[some cls.ast], patternAsts ps, patternAsts named]
  | .star _ name => holding "MatchStar" [] [name.toList] []
  | .capture _ none name => holding "MatchAs" [] [name.toList] [[none]]
  | .capture _ (some p) name => holding "MatchAs" [] [name.toList] [[some p.ast]]
  | .alternatives _ ps => inner "MatchOr" [patternAsts ps]

/-- The asts of patterns. -/
def patternAsts : List Pattern → List (Option Ast)
  | [] => []
  | p :: ps => some p.ast :: patternAsts ps

end

/-! ### Statements -/

/-- The ast of an imported name. -/
def Alias.ast (a : Alias) : Ast := holding "alias" [a.name] [a.asName.toList] []

/-- The ast of a context manager. -/
def WithItem.ast (w : WithItem) : Ast :=
  inner "withitem" [[some w.context.ast], [optionalAst w.target]]

mutual

/-- The ast of a statement. -/
def Stmt.ast : Stmt → Ast
  | .function _ isAsync name params body decorators returns =>
    holding (if isAsync then "AsyncFunctionDef" else "FunctionDef") [] [[name]]
      [[some params.ast], stmtAsts body, asts decorators, [optionalAst returns]]
      (by split <;> simp)
  | .classDef _ name bases keywords body decorators =>
    holding "ClassDef" [] [[name]]
      [asts bases, keywordAsts keywords, stmtAsts body, asts decorators]
  | .returnValue _ value => inner "Return" [[optionalAst value]]
  | .delete _ targets => inner "Delete" [asts targets]
  | .assign _ targets value => inner "Assign" [asts targets, [some value.ast]]
  | .augAssign _ target o value =>
    inner "AugAssign"
      [[some target.ast], [some (inner o.label [] o.label_named)], [some value.ast]]
  | .annAssign _ target hint value simple =>
    holding "AnnAssign" [] [flag simple] [[some target.ast], [some hint.ast], [optionalAst value]]
  | .forLoop _ isAsync target source body orElse =>
    inner (if isAsync then "AsyncFor" else "For")
      [[some target.ast], [some source.ast], stmtAsts body, stmtAsts orElse] (by split <;> simp)
  | .whileLoop _ test body orElse =>
    inner "While" [[some test.ast], stmtAsts body, stmtAsts orElse]
  | .conditional _ test body orElse =>
    inner "If" [[some test.ast], stmtAsts body, stmtAsts orElse]
  | .withBlock _ isAsync items body =>
    inner (if isAsync then "AsyncWith" else "With")
      [items.map fun w => some w.ast, stmtAsts body] (by split <;> simp)
  | .matchBlock _ subject cases => inner "Match" [[some subject.ast], caseAsts cases]
  | .raiseError _ error cause => inner "Raise" [[optionalAst error], [optionalAst cause]]
  | .tryBlock _ isStar body handlers orElse finish =>
    inner (if isStar then "TryStar" else "Try")
      [stmtAsts body, handlerAsts handlers, stmtAsts orElse, stmtAsts finish] (by split <;> simp)
  | .assertion _ test message => inner "Assert" [[some test.ast], [optionalAst message]]
  | .importNames _ names => inner "Import" [names.map fun a => some a.ast]
  | .importFrom _ module names level =>
    holding "ImportFrom" module.toList [[toString level]] [names.map fun a => some a.ast]
  | .globalNames _ names => holding "Global" names [] []
  | .nonlocalNames _ names => holding "Nonlocal" names [] []
  | .expression _ value => inner "Expr" [[some value.ast]]
  | .pass _ => inner "Pass" []
  | .breakLoop _ => inner "Break" []
  | .continueLoop _ => inner "Continue" []

/-- The asts of statements. -/
def stmtAsts : List Stmt → List (Option Ast)
  | [] => []
  | s :: ss => some s.ast :: stmtAsts ss

/-- The asts of `except` clauses. -/
def handlerAsts : List Handler → List (Option Ast)
  | [] => []
  | .mk _ type name body :: rest =>
    some (holding "ExceptHandler" [] [name.toList] [[optionalAst type], stmtAsts body])
      :: handlerAsts rest

/-- The asts of `case` clauses. -/
def caseAsts : List MatchCase → List (Option Ast)
  | [] => []
  | .mk pattern guard body :: rest =>
    some (inner "match_case" [[some pattern.ast], [optionalAst guard], stmtAsts body])
      :: caseAsts rest

end

/-! ### Outlines have the shape of the ast -/

@[simp] theorem shape_placed (l : LineRange) (label value : String) (children : List Outline) :
    (placed l label value children).shape = .node label value (children.map Outline.shape) := by
  rw [placed, Outline.shape, Outline.shapes_eq_map]

@[simp] theorem shape_unplaced (label : String) (children : List Outline) :
    (unplaced label children).shape = .node label "" (children.map Outline.shape) := by
  rw [unplaced, Outline.shape, Outline.shapes_eq_map]

@[simp] theorem shape_interned (label : String) :
    (Outline.interned label).shape = .node label "" [] := rfl

theorem intercalate_toList (s : Option String) : ",".intercalate s.toList = s.getD "" := by
  cases s <;> simp

theorem placeShapes_map_some {α : Type} (f : α → Ast) (xs : List α) :
    Ast.placeShapes (xs.map fun x => some (f x)) = xs.map fun x => (f x).shape := by
  induction xs with
  | nil => rfl
  | cons x xs ih => rw [List.map_cons, Ast.placeShapes_some, ih, List.map_cons]

mutual

theorem Expr.shape_outline : ∀ e : Expr, e.outline.shape = e.ast.shape
  | .boolOp _ o values => by simp [Expr.outline, Expr.ast, shapes_outlines values]
  | .named _ target value => by
    simp [Expr.outline, Expr.ast, target.shape_outline, value.shape_outline]
  | .binary _ left o right => by
    simp [Expr.outline, Expr.ast, left.shape_outline, right.shape_outline]
  | .unary _ o operand => by simp [Expr.outline, Expr.ast, operand.shape_outline]
  | .lambda _ params body => by
    simp [Expr.outline, Expr.ast, params.shape_outline, body.shape_outline]
  | .ifExp _ test body orElse => by
    simp [Expr.outline, Expr.ast, test.shape_outline, body.shape_outline, orElse.shape_outline]
  | .dict _ keys values => by
    simp [Expr.outline, Expr.ast, shapes_presentOutlines keys, shapes_outlines values]
  | .set _ elements | .list _ elements | .tuple _ elements | .joined _ elements => by
    simp [Expr.outline, Expr.ast, shapes_outlines elements]
  | .listComp _ e generators | .setComp _ e generators | .generator _ e generators => by
    simp [Expr.outline, Expr.ast, e.shape_outline, shapes_clauseOutlines generators]
  | .dictComp _ k v generators => by
    simp [Expr.outline, Expr.ast, k.shape_outline, v.shape_outline,
      shapes_clauseOutlines generators]
  | .await _ value | .yieldFrom _ value | .starred _ value | .attr _ value _ => by
    simp [Expr.outline, Expr.ast, value.shape_outline]
  | .yield _ value => by simp [Expr.outline, Expr.ast, shapes_optionalOutline value]
  | .compare _ left ops comparators => by
    simp [Expr.outline, Expr.ast, left.shape_outline, shapes_outlines comparators,
      placeShapes_map_some]
  | .call _ func args keywords => by
    simp [Expr.outline, Expr.ast, func.shape_outline, shapes_outlines args,
      shapes_keywordOutlines keywords]
  | .formatted _ value _ spec => by
    simp [Expr.outline, Expr.ast, value.shape_outline, shapes_optionalOutline spec]
  | .constant .. | .name .. => by simp [Expr.outline, Expr.ast]
  | .subscript _ value index => by
    simp [Expr.outline, Expr.ast, value.shape_outline, index.shape_outline]
  | .slice _ lower upper step => by
    simp [Expr.outline, Expr.ast, shapes_optionalOutline lower, shapes_optionalOutline upper,
      shapes_optionalOutline step]

theorem shapes_outlines : ∀ es : List Expr,
    (outlines es).map Outline.shape = Ast.placeShapes (asts es)
  | [] => rfl
  | e :: es => by simp [outlines, asts, e.shape_outline, shapes_outlines es]

theorem shapes_optionalOutline : ∀ e : Option Expr,
    (optionalOutline e).map Outline.shape = Ast.placeShapes [optionalAst e]
  | none => rfl
  | some e => by simp [optionalOutline, optionalAst, e.shape_outline]

theorem shapes_presentOutlines : ∀ es : List (Option Expr),
    (presentOutlines es).map Outline.shape = Ast.placeShapes (optionalAsts es)
  | [] => rfl
  | e :: es => by
    rw [presentOutlines, optionalAsts, List.map_append, shapes_optionalOutline e,
      shapes_presentOutlines es]
    exact (Ast.placeShapes_cons _ _).symm

theorem shapes_clauseOutlines : ∀ cs : List Comprehension,
    (clauseOutlines cs).map Outline.shape = Ast.placeShapes (clauseAsts cs)
  | [] => rfl
  | .mk target source conditions _ :: rest => by
    simp [clauseOutlines, clauseAsts, target.shape_outline, source.shape_outline,
      shapes_outlines conditions, shapes_clauseOutlines rest]

theorem shapes_keywordOutlines : ∀ ks : List Keyword,
    (keywordOutlines ks).map Outline.shape = Ast.placeShapes (keywordAsts ks)
  | [] => rfl
  | .mk _ name value :: rest => by
    simp [keywordOutlines, keywordAsts, value.shape_outline, intercalate_toList,
      shapes_keywordOutlines rest]

theorem Param.shape_outline : ∀ p : Param, p.outline.shape = p.ast.shape
  | .mk _ _ hint => by simp [Param.outline, Param.ast, shapes_optionalOutline hint]

theorem shapes_paramOutlines : ∀ ps : List Param,
    (paramOutlines ps).map Outline.shape = Ast.placeShapes (paramAsts ps)
  | [] => rfl
  | p :: ps => by simp [paramOutlines, paramAsts, p.shape_outline, shapes_paramOutlines ps]

theorem shapes_optionalParamOutline : ∀ p : Option Param,
    (optionalParamOutline p).map Outline.shape = Ast.placeShapes [optionalParamAst p]
  | none => rfl
  | some p => by simp [optionalParamOutline, optionalParamAst, p.shape_outline]

theorem Params.shape_outline : ∀ ps : Params, ps.outline.shape = ps.ast.shape
  | .mk positionalOnly positional rest keywordOnly keywordDefaults keywordRest defaults => by
    simp [Params.outline, Params.ast, shapes_paramOutlines positionalOnly,
      shapes_paramOutlines positional, shapes_optionalParamOutline rest,
      shapes_paramOutlines keywordOnly, shapes_presentOutlines keywordDefaults,
      shapes_optionalParamOutline keywordRest, shapes_outlines defaults]

end

mutual

theorem Pattern.shape_outline : ∀ p : Pattern, p.outline.shape = p.ast.shape
  | .value _ value => by simp [Pattern.outline, Pattern.ast, value.shape_outline]
  | .singleton .. | .star .. | .capture _ none _ => by
    simp [Pattern.outline, Pattern.ast, Ast.placeShapes]
  | .sequence _ ps | .alternatives _ ps => by
    simp [Pattern.outline, Pattern.ast, shapes_patternOutlines ps]
  | .mapping _ keys ps _ => by
    simp [Pattern.outline, Pattern.ast, shapes_outlines keys, shapes_patternOutlines ps]
  | .object _ cls ps _ named => by
    simp [Pattern.outline, Pattern.ast, cls.shape_outline, shapes_patternOutlines ps,
      shapes_patternOutlines named]
  | .capture _ (some p) _ => by simp [Pattern.outline, Pattern.ast, p.shape_outline]

theorem shapes_patternOutlines : ∀ ps : List Pattern,
    (patternOutlines ps).map Outline.shape = Ast.placeShapes (patternAsts ps)
  | [] => rfl
  | p :: ps => by simp [patternOutlines, patternAsts, p.shape_outline, shapes_patternOutlines ps]

end

theorem Alias.shape_outline (a : Alias) : a.outline.shape = a.ast.shape := by
  simp [Alias.outline, Alias.ast]

theorem WithItem.shape_outline (w : WithItem) : w.outline.shape = w.ast.shape := by
  simp [WithItem.outline, WithItem.ast, w.context.shape_outline, shapes_optionalOutline w.target]

theorem shapes_map_outline {α : Type} {f : α → Outline} {g : α → Ast}
    (h : ∀ x, (f x).shape = (g x).shape) (xs : List α) :
    (xs.map f).map Outline.shape = Ast.placeShapes (xs.map fun x => some (g x)) := by
  rw [placeShapes_map_some, List.map_map]
  exact List.map_congr_left fun x _ => h x

mutual

/-- **The outline of a statement has the shape of its ast.** -/
theorem Stmt.shape_outline : ∀ s : Stmt, s.outline.shape = s.ast.shape
  | .function _ isAsync _ params body decorators returns => by
    simp [Stmt.outline, Stmt.ast, params.shape_outline, shapes_stmtOutlines body,
      shapes_outlines decorators, shapes_optionalOutline returns]
  | .classDef _ _ bases keywords body decorators => by
    simp [Stmt.outline, Stmt.ast, shapes_outlines bases, shapes_keywordOutlines keywords,
      shapes_stmtOutlines body, shapes_outlines decorators]
  | .returnValue _ value => by simp [Stmt.outline, Stmt.ast, shapes_optionalOutline value]
  | .delete _ targets => by simp [Stmt.outline, Stmt.ast, shapes_outlines targets]
  | .assign _ targets value => by
    simp [Stmt.outline, Stmt.ast, shapes_outlines targets, value.shape_outline]
  | .augAssign _ target _ value => by
    simp [Stmt.outline, Stmt.ast, target.shape_outline, value.shape_outline]
  | .annAssign _ target hint value _ => by
    simp [Stmt.outline, Stmt.ast, target.shape_outline, hint.shape_outline,
      shapes_optionalOutline value]
  | .forLoop _ isAsync target source body orElse => by
    simp [Stmt.outline, Stmt.ast, target.shape_outline, source.shape_outline,
      shapes_stmtOutlines body, shapes_stmtOutlines orElse]
  | .whileLoop _ test body orElse | .conditional _ test body orElse => by
    simp [Stmt.outline, Stmt.ast, test.shape_outline, shapes_stmtOutlines body,
      shapes_stmtOutlines orElse]
  | .withBlock _ isAsync items body => by
    rw [Stmt.outline, Stmt.ast, shape_placed, Ast.shape_inner, List.map_append,
      shapes_map_outline WithItem.shape_outline items, shapes_stmtOutlines body]
    simp
  | .matchBlock _ subject cases => by
    simp [Stmt.outline, Stmt.ast, subject.shape_outline, shapes_caseOutlines cases]
  | .raiseError _ error cause => by
    simp [Stmt.outline, Stmt.ast, shapes_optionalOutline error, shapes_optionalOutline cause]
  | .tryBlock _ isStar body handlers orElse finish => by
    simp [Stmt.outline, Stmt.ast, shapes_stmtOutlines body, shapes_handlerOutlines handlers,
      shapes_stmtOutlines orElse, shapes_stmtOutlines finish]
  | .assertion _ test message => by
    simp [Stmt.outline, Stmt.ast, test.shape_outline, shapes_optionalOutline message]
  | .importNames _ names => by
    rw [Stmt.outline, Stmt.ast, shape_placed, Ast.shape_inner,
      shapes_map_outline Alias.shape_outline names]
    simp
  | .importFrom _ module names _ => by
    rw [Stmt.outline, Stmt.ast, shape_placed, Ast.shape_holding, intercalate_toList,
      shapes_map_outline Alias.shape_outline names]
    simp
  | .expression _ value => by simp [Stmt.outline, Stmt.ast, value.shape_outline]
  | .globalNames .. | .nonlocalNames .. | .pass _ | .breakLoop _ | .continueLoop _ => by
    simp [Stmt.outline, Stmt.ast]

theorem shapes_stmtOutlines : ∀ ss : List Stmt,
    (stmtOutlines ss).map Outline.shape = Ast.placeShapes (stmtAsts ss)
  | [] => rfl
  | s :: ss => by simp [stmtOutlines, stmtAsts, s.shape_outline, shapes_stmtOutlines ss]

theorem shapes_handlerOutlines : ∀ hs : List Handler,
    (handlerOutlines hs).map Outline.shape = Ast.placeShapes (handlerAsts hs)
  | [] => rfl
  | .mk _ type _ body :: rest => by
    simp [handlerOutlines, handlerAsts, shapes_optionalOutline type, shapes_stmtOutlines body,
      shapes_handlerOutlines rest]

theorem shapes_caseOutlines : ∀ cs : List MatchCase,
    (caseOutlines cs).map Outline.shape = Ast.placeShapes (caseAsts cs)
  | [] => rfl
  | .mk pattern guard body :: rest => by
    simp [caseOutlines, caseAsts, pattern.shape_outline, shapes_optionalOutline guard,
      shapes_stmtOutlines body, shapes_caseOutlines rest]

end

end Lineage.Source
