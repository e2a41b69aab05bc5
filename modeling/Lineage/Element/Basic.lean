import Lineage.Tree.Basic

/-!
Declared elements of a source file: classes, methods, attributes, variables and blocks, with their
signatures.
-/

namespace Lineage

/-- The kinds of elements whose history can be told. -/
inductive ElementKind where
  | classDecl
  | methodDecl
  | attributeDecl
  | variableDecl
  | blockStmt
  deriving DecidableEq, Repr, Inhabited

namespace ElementKind

/-- All kinds in their usual order. -/
def all : List ElementKind := [classDecl, methodDecl, attributeDecl, variableDecl, blockStmt]

/-- The word for a kind. -/
def text : ElementKind → String
  | classDecl => "class"
  | methodDecl => "method"
  | attributeDecl => "attribute"
  | variableDecl => "variable"
  | blockStmt => "block"

/-- The kind that a word stands for. -/
def ofText? (s : String) : Option ElementKind := all.find? fun k => k.text == s

end ElementKind

/-- The declared shape of an element. Methods use parameters, return type and modifiers; a class has
its bases as parameters and its decorators as modifiers; attributes and variables have their
annotation as return type; a block has its header. -/
structure Signature where
  parameters : List String := []
  returnType : Option String := none
  modifiers : List String := []
  header : Option String := none
  deriving DecidableEq, Repr, Inhabited

namespace Signature

/-- The parts of a signature, marked by what they are: return types by an arrow, modifiers by an at
sign, a header by a question mark. -/
def tokens (s : Signature) : List String :=
  s.parameters ++ s.returnType.toList.map ("->" ++ ·) ++ s.modifiers.map ("@" ++ ·)
    ++ s.header.toList.map ("?" ++ ·)

/-- The signature as it is shown. A header stands alone. -/
def text (s : Signature) : String :=
  match s.header with
  | some header => header
  | none =>
    let plain := "(" ++ ", ".intercalate s.parameters ++ ")"
    let plain := match s.returnType with
      | some type => plain ++ " -> " ++ type
      | none => plain
    if s.modifiers.isEmpty then plain
    else " ".intercalate (s.modifiers.map ("@" ++ ·)) ++ " " ++ plain

end Signature

/-- A declared element of a file. `index` is its place in the model, `container` the place of the
declaration that it stands in. -/
structure Element where
  index : Nat
  kind : ElementKind
  name : String
  qualifiedName : String
  container : Option Nat
  signature : Signature
  lines : LineRange
  bodyTokens : List String
  tree : Tree
  blockType : Option String

namespace Element

/-- The qualified name followed by the signature. -/
def identifier (e : Element) : String := e.qualifiedName ++ e.signature.text

/-- Blocks and variables belong to the method around them. -/
def isLocal (e : Element) : Bool := e.kind == .blockStmt || e.kind == .variableDecl

end Element

end Lineage
