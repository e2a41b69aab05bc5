import Lineage.Element.Model
import Lineage.Input.Reader

/-!
Locators name an element in a file by what a reader of the file sees: its kind, names and lines.
`Locator.find?` looks the element up; where several elements fit, the innermost one is meant.
-/

namespace Lineage

/-- A description of an element. -/
inductive Locator where
  | classNamed (name : String) (line : Option Int)
  | methodAt (name : String) (line : Int)
  | attributeAt (name : String) (line : Int)
  | variableAt (method : Option (String × Int)) (name : String) (line : Int)
  | blockAt (method : String) (methodLine : Int) (blockType : String) (first last : Int)
  deriving DecidableEq, Repr

namespace Locator

/-- The kind of element that is meant. -/
def kind : Locator → ElementKind
  | classNamed .. => .classDecl
  | methodAt .. => .methodDecl
  | attributeAt .. => .attributeDecl
  | variableAt .. => .variableDecl
  | blockAt .. => .blockStmt

/-- The element in words. -/
def describe : Locator → String
  | classNamed name _ => "class " ++ name
  | methodAt name _ => "method " ++ name
  | attributeAt name _ => "attribute " ++ name
  | variableAt _ name _ => "variable " ++ name
  | blockAt _ _ type _ _ => type ++ " block"

/-- The line that tells most about where the element is. -/
def line? : Locator → Option Int
  | classNamed _ line => line
  | methodAt _ line => some line
  | attributeAt _ line => some line
  | variableAt _ _ line => some line
  | blockAt _ _ _ first _ => some first

/-! ### Looking up -/

/-- Of two elements the one that covers fewer lines, or comes first. -/
def inner (a b : Element) : Element :=
  if b.lines.extent < a.lines.extent ∨ (b.lines.extent = a.lines.extent ∧ b.index < a.index) then b
  else a

/-- The innermost of some elements. -/
def innermost? : List Element → Option Element
  | [] => none
  | e :: es => some (es.foldl inner e)

/-- The innermost method of a name around a line. -/
def methodOf? (m : Model) (name : String) (line : Int) : Option Element :=
  innermost? (m.elements.toList.filter fun e =>
    e.kind == .methodDecl && e.name == name && e.lines.holds line)

/-- The element that a locator means. A class without a line is the first of its name. -/
def find? (m : Model) : Locator → Option Element
  | classNamed name none =>
    m.elements.toList.find? fun e =>
      e.kind == .classDecl && (name == e.name || name == e.qualifiedName)
  | classNamed name (some line) =>
    innermost? (m.elements.toList.filter fun e =>
      e.kind == .classDecl && (name == e.name || name == e.qualifiedName) && e.lines.holds line)
  | methodAt name line => methodOf? m name line
  | attributeAt name line =>
    innermost? (m.elements.toList.filter fun e =>
      e.kind == .attributeDecl && e.name == name && e.lines.holds line)
  | variableAt method name line =>
    let among (container : Option Nat) : Option Element :=
      innermost? (m.elements.toList.filter fun e =>
        e.kind == .variableDecl && e.name == name && e.container == container && e.lines.holds line)
    match method with
    | none => among none
    | some (methodName, methodLine) =>
      (methodOf? m methodName methodLine).bind fun owner => among (some owner.index)
  | blockAt method methodLine type first last =>
    (methodOf? m method methodLine).bind fun owner =>
      (m.ofKind .blockStmt).find? fun e =>
        e.blockType == some type && e.lines == ⟨first, last⟩
          && (m.enclosingMethod? e).map (·.index) == some owner.index

/-! ### Reading -/

open Input Reader

/-- The words for types of blocks. -/
def blockTypes : List String :=
  ["if", "for", "async for", "while", "with", "async with", "try", "match"]

/-- Reads a description of a class. -/
def classReader : Reader Locator :=
  closed ["kind", "class_name", "line"] fun j =>
    classNamed <$> field "class_name" someText j <*> fieldOr "line" (optional positive) none j

/-- Reads a description of a method. -/
def methodReader : Reader Locator :=
  closed ["kind", "method_name", "method_line"] fun j =>
    methodAt <$> field "method_name" someText j <*> field "method_line" positive j

/-- Reads a description of an attribute. -/
def attributeReader : Reader Locator :=
  closed ["kind", "attribute_name", "attribute_line"] fun j =>
    attributeAt <$> field "attribute_name" someText j <*> field "attribute_line" positive j

/-- The fields of a description of a variable. -/
structure VariableFields where
  methodName : Option String
  methodLine : Option Int
  name : String
  line : Int

/-- Refuses a method that is named without its line, or the other way round. -/
def VariableFields.halfNamed? (v : VariableFields) : Option String :=
  if v.methodName.isSome == v.methodLine.isSome then none
  else some "method_name and method_line must be given together"

/-- Reads a description of a variable. -/
def variableReader : Reader Locator := fun j =>
  (satisfying VariableFields.halfNamed?
    (closed ["kind", "method_name", "method_line", "variable_name", "variable_line"] fun j =>
      VariableFields.mk <$> fieldOr "method_name" (optional someText) none j
        <*> fieldOr "method_line" (optional positive) none j
        <*> field "variable_name" someText j
        <*> field "variable_line" positive j) j).map fun v =>
    variableAt (v.methodName.bind fun n => v.methodLine.map fun l => (n, l)) v.name v.line

/-- Refuses a block that ends before it starts. -/
def reversed? : Locator → Option String
  | blockAt _ _ _ first last =>
    if last < first then some "end_line must not be before start_line" else none
  | _ => none

/-- Reads a description of a block. -/
def blockReader : Reader Locator :=
  satisfying reversed?
    (closed ["kind", "method_name", "method_line", "block_type", "start_line", "end_line"] fun j =>
      blockAt <$> field "method_name" someText j
        <*> field "method_line" positive j
        <*> field "block_type" (oneOf blockTypes) j
        <*> field "start_line" positive j
        <*> field "end_line" positive j)

/-- The reader for each kind of element. -/
def readers : List (String × Reader Locator) :=
  [("class", classReader), ("method", methodReader), ("attribute", attributeReader),
    ("variable", variableReader), ("block", blockReader)]

/-- Reads a description of an element. The field `kind` says which kind is described. -/
def reader : Reader Locator :=
  record "" fun j =>
    match j.get? "kind" with
    | none => .refuse (.noTag "kind")
    | some tag =>
      let known? := match tag with
        | .text s => (readers.lookup s).map fun r => (s, r)
        | _ => none
      match known? with
      | some (s, r) => (r j).under (.field s)
      | none => .refuse (.wrongTag tag.plain "kind" (readers.map (·.1)))

/-- The fields of a locator. -/
def fields : Locator → List (String × Json)
  | classNamed name line =>
    [("kind", .text "class"), ("class_name", .text name), ("line", (line.map .int).getD .null)]
  | methodAt name line =>
    [("kind", .text "method"), ("method_name", .text name), ("method_line", .int line)]
  | attributeAt name line =>
    [("kind", .text "attribute"), ("attribute_name", .text name), ("attribute_line", .int line)]
  | variableAt method name line =>
    [("kind", .text "variable"), ("method_name", .ofText? (method.map (·.1))),
      ("method_line", (method.map fun m => Json.int m.2).getD .null),
      ("variable_name", .text name), ("variable_line", .int line)]
  | blockAt method methodLine type first last =>
    [("kind", .text "block"), ("method_name", .text method), ("method_line", .int methodLine),
      ("block_type", .text type), ("start_line", .int first), ("end_line", .int last)]

end Locator

end Lineage
