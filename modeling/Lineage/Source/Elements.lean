import Lineage.Element.Model
import Lineage.Source.Declaration
import Lineage.Source.Outline

/-!
The elements that a file declares, in document order.

Classes and functions are declarations wherever they stand. Assignments directly in a class body and
assignments to `self` directly in the body of its `__init__` declare attributes of the class; all
other assignments outside of class bodies declare variables. Compound statements inside a function
are blocks of it. An attribute or variable is declared where it is bound first.
-/

namespace Lineage.Source

/-- The deepest nesting of statements together with an expression in them that is analysed. -/
def maxNesting : Nat := 320

/-- An enclosing declaration: its place among the elements, and its kind. -/
structure Surrounding where
  index : Nat
  kind : ElementKind

/-- The enclosing declarations, the innermost first. -/
abbrev Scope : Type := List Surrounding

/-- The innermost enclosing declaration of one of some kinds. -/
def Scope.nearest? (scope : Scope) (kinds : List ElementKind) : Option Nat :=
  (scope.find? fun s => kinds.contains s.kind).map (·.index)

/-- The kinds of elements that others are named after. -/
def namingKinds : List ElementKind := [.classDecl, .methodDecl]

/-- The elements found so far, with the variables and attributes that need no further element. -/
structure Collection where
  elements : Array Element
  bound : List (Option Nat × String)
  ownNames : List (Nat × String)

namespace Collection

/-- Nothing found. -/
def empty : Collection := ⟨#[], [], []⟩

/-- The qualified name of an element, or an empty text. -/
def nameAt (c : Collection) (index : Nat) : String :=
  match c.elements[index]? with
  | some e => e.qualifiedName
  | none => ""

/-- The kind of an element. -/
def kindAt? (c : Collection) (index : Nat) : Option ElementKind := (c.elements[index]?).map (·.kind)

/-- A name after that of the innermost enclosing class or function. -/
def qualify (c : Collection) (scope : Scope) (name : String) : String :=
  match scope.nearest? namingKinds with
  | some i => c.nameAt i ++ "." ++ name
  | none => name

/-- Adds an element for a node. `body` holds the trees that its tokens are taken from. -/
def add (c : Collection) (t : Tree) (kind : ElementKind) (name qualifiedName : String)
    (container : Option Nat) (signature : Signature) (body : List Tree)
    (blockType : Option String) : Collection :=
  { c with
    elements := c.elements.push {
      index := c.elements.size
      kind, name, qualifiedName, container, signature
      lines := t.lines
      bodyTokens := body.flatMap fun b => b.preorder.map (·.token)
      tree := t
      blockType } }

/-- Adds an attribute of a class unless it has it. -/
def addOwn (c : Collection) (t : Tree) (owner : Nat) (hint : Option String) (name : String) :
    Collection :=
  if c.ownNames.contains (owner, name) then c
  else
    { c with ownNames := (owner, name) :: c.ownNames }.add t .attributeDecl name
      (c.nameAt owner ++ "." ++ name) (some owner) { returnType := hint } [t] none

/-- Adds a variable of a function, or of the file, unless it has it. -/
def addVariable (c : Collection) (t : Tree) (owner : Option Nat) (hint : Option String)
    (name : String) : Collection :=
  if c.bound.contains (owner, name) then c
  else
    let qualified := match owner with
      | some i => c.nameAt i ++ "." ++ name
      | none => name
    { c with bound := (owner, name) :: c.bound }.add t .variableDecl name qualified owner
      { returnType := hint } [t] none

end Collection

/-- A collection in progress. -/
abbrev Collecting : Type → Type := StateT Collection (Except TextFault)

/-- The text of an expression that stands at some depth of statements. -/
def textAt (depth : Nat) : TextOf := fun e =>
  if maxNesting < depth + e.outline.height then .error .tooDeep
  else
    match e.text with
    | .ok s => .ok s
    | .error .backslash => .error .backslash

/-- Adds the attributes of a class that an assignment in its body binds. -/
def collectAttributes (depth owner : Nat) (s : Stmt) (t : Tree) : Collecting Unit := do
  let hint ← (s.boundHint?.mapM (textAt depth) : Except _ _)
  modify fun c => s.boundNames.foldl (fun c n => c.addOwn t owner hint n) c

/-- Adds the attributes of a class that an assignment to `self` binds. -/
def collectOwn (depth owner : Nat) (s : Stmt) (t : Tree) : Collecting Unit := do
  let hint ← (s.hint?.mapM (textAt depth) : Except _ _)
  modify fun c => s.ownAttributes.foldl (fun c n => c.addOwn t owner hint n) c

/-- Adds the variables that an assignment binds; in a class body there are none. -/
def collectVariables (depth : Nat) (scope : Scope) (s : Stmt) (t : Tree) : Collecting Unit := do
  let c ← get
  let owner := scope.nearest? namingKinds
  if owner.bind c.kindAt? = some .classDecl then return ()
  let hint ← (s.boundHint?.mapM (textAt depth) : Except _ _)
  set (s.boundNames.foldl (fun c n => c.addVariable t owner hint n) c)

/-- Adds a block if the statement is one inside a function. Gives the scope of its body. -/
def enterBlock (depth : Nat) (scope : Scope) (s : Stmt) (t : Tree) : Collecting Scope := do
  match s.blockType?, scope.nearest? [.methodDecl] with
  | some word, some method =>
    let header ← (s.header (textAt depth) : Except _ _)
    let c ← get
    set (c.add t .blockStmt word (c.nameAt method ++ "/" ++ word) (some method)
      { header := some header } [t] (some word))
    return ⟨c.elements.size, .blockStmt⟩ :: scope
  | _, _ => return scope

/-- Adds a class or function. Gives its place. -/
def enterDeclaration (scope : Scope) (kind : ElementKind) (name : String) (signature : Signature)
    (t : Tree) (body : List Tree) : Collecting Nat := do
  let c ← get
  set (c.add t kind name (c.qualify scope name) (scope.nearest? namingKinds) signature body none)
  return c.elements.size

/-- What the statements of a body declare besides what they declare everywhere: attributes of a
class in its own body, attributes of the class around an initializer, or nothing. -/
inductive Membership where
  | none
  | ofClass (owner : Nat)
  | ofInitializer (owner : Nat)

/-- Adds what a statement declares as a member. -/
def Membership.collect (m : Membership) (depth : Nat) (s : Stmt) (t : Tree) : Collecting Unit :=
  match m with
  | none => return ()
  | ofClass owner => collectAttributes depth owner s t
  | ofInitializer owner => collectOwn depth owner s t

/-- The membership of the statements in the body of a function. -/
def initializerOf (c : Collection) (scope : Scope) (name : String) : Membership :=
  match scope.nearest? namingKinds with
  | some owner =>
    if c.kindAt? owner = some .classDecl ∧ name = "__init__" then .ofInitializer owner else .none
  | Option.none => .none

mutual

/-- Adds the elements of a statement, whose tree is given. -/
def collect (depth : Nat) (scope : Scope) : Stmt → Tree → Collecting Unit
  | .function _ isAsync name params body decorators returns, t => do
    let modifiers ← (decorators.mapM (textAt depth) : Except _ _)
    let parameters ← (params.texts (textAt depth) : Except _ _)
    let returnType ← (returns.mapM (textAt depth) : Except _ _)
    let modifiers := if isAsync then "async" :: modifiers else modifiers
    let trees := t.children.drop 1
    let membership := initializerOf (← get) scope name
    let index ← enterDeclaration scope .methodDecl name { parameters, returnType, modifiers } t
      (trees.take body.length)
    collectAll (depth + 1) (⟨index, .methodDecl⟩ :: scope) membership body trees
  | .classDef _ name bases keywords body decorators, t => do
    let parameters ← (bases.mapM (textAt depth) : Except _ _)
    let modifiers ← (decorators.mapM (textAt depth) : Except _ _)
    let trees := t.children.drop (bases.length + keywords.length)
    let index ← enterDeclaration scope .classDecl name { parameters, modifiers } t
      (trees.take body.length)
    collectAll (depth + 1) (⟨index, .classDecl⟩ :: scope) (.ofClass index) body trees
  | .assign l targets value, t => collectVariables depth scope (.assign l targets value) t
  | .annAssign l target hint value simple, t =>
    collectVariables depth scope (.annAssign l target hint value simple) t
  | .conditional l test body orElse, t => do
    let scope ← enterBlock depth scope (.conditional l test body orElse) t
    collectAll (depth + 1) scope .none body (t.children.drop 1)
    collectAll (depth + 1) scope .none orElse (t.children.drop (1 + body.length))
  | .whileLoop l test body orElse, t => do
    let scope ← enterBlock depth scope (.whileLoop l test body orElse) t
    collectAll (depth + 1) scope .none body (t.children.drop 1)
    collectAll (depth + 1) scope .none orElse (t.children.drop (1 + body.length))
  | .forLoop l isAsync target source body orElse, t => do
    let scope ← enterBlock depth scope (.forLoop l isAsync target source body orElse) t
    collectAll (depth + 1) scope .none body (t.children.drop 2)
    collectAll (depth + 1) scope .none orElse (t.children.drop (2 + body.length))
  | .withBlock l isAsync items body, t => do
    let scope ← enterBlock depth scope (.withBlock l isAsync items body) t
    collectAll (depth + 1) scope .none body (t.children.drop items.length)
  | .matchBlock l subject cases, t => do
    let scope ← enterBlock depth scope (.matchBlock l subject cases) t
    collectCases (depth + 1) scope cases (t.children.drop 1)
  | .tryBlock l isStar body handlers orElse finish, t => do
    let scope ← enterBlock depth scope (.tryBlock l isStar body handlers orElse finish) t
    let rest := t.children.drop body.length
    collectAll (depth + 1) scope .none body t.children
    collectHandlers (depth + 1) scope handlers rest
    collectAll (depth + 1) scope .none orElse (rest.drop handlers.length)
    collectAll (depth + 1) scope .none finish (rest.drop (handlers.length + orElse.length))
  | _, _ => return ()

/-- Adds the elements of statements, whose trees come first among those given. -/
def collectAll (depth : Nat) (scope : Scope) (membership : Membership) :
    List Stmt → List Tree → Collecting Unit
  | s :: ss, t :: ts => do
    if maxNesting < depth then throw .tooDeep
    membership.collect depth s t
    collect depth scope s t
    collectAll depth scope membership ss ts
  | _, _ => return ()

/-- Adds the elements of `except` clauses. -/
def collectHandlers (depth : Nat) (scope : Scope) : List Handler → List Tree → Collecting Unit
  | .mk _ type _ body :: hs, t :: ts => do
    collectAll (depth + 1) scope .none body (t.children.drop type.toList.length)
    collectHandlers depth scope hs ts
  | _, _ => return ()

/-- Adds the elements of `case` clauses. -/
def collectCases (depth : Nat) (scope : Scope) : List MatchCase → List Tree → Collecting Unit
  | .mk _ guard body :: cs, t :: ts => do
    collectAll (depth + 1) scope .none body (t.children.drop (1 + guard.toList.length))
    collectCases depth scope cs ts
  | _, _ => return ()

end

/-- The elements of a file whose tree is given. -/
def elements (body : List Stmt) (t : Tree) : Except TextFault (Array Element) := do
  let (_, c) ← (collectAll 1 [] .none body t.children).run .empty
  return c.elements

end Lineage.Source
