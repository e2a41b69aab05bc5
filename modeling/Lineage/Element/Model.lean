import Lineage.Element.Basic

/-!
The structural model of one file at one revision: its syntax tree and its elements in document
order. Elements refer to each other by their places in the list.
-/

namespace Lineage

/-- All declared elements of the file at `path`. -/
structure Model where
  path : String
  elements : Array Element
  tree : Tree

namespace Model

/-- The number of elements. -/
def size (m : Model) : Nat := m.elements.size

/-- The elements of one kind. -/
def ofKind (m : Model) (kind : ElementKind) : List Element :=
  m.elements.toList.filter (·.kind == kind)

/-- The element at the root of a node: of several elements on one node, the last. -/
def elementForNode? (m : Model) (node : Tree) : Option Element :=
  m.elements.toList.reverse.find? (·.tree.id == node.id)

/-- The declaration that an element stands in. -/
def containerOf? (m : Model) (e : Element) : Option Element :=
  e.container.bind (m.elements[·]?)

/-- The qualified name of the container, empty at top level. -/
def containerName (m : Model) (e : Element) : String :=
  match m.containerOf? e with
  | some c => c.qualifiedName
  | none => ""

/-- The first method on the way outwards from `start`. Containers come before what they contain, so
a way has at most as many steps as there are elements. -/
def methodFrom? (m : Model) : Nat → Option Element → Option Element
  | _, none => none
  | 0, some _ => none
  | fuel + 1, some e => if e.kind == .methodDecl then some e else m.methodFrom? fuel (m.containerOf? e)

/-- The nearest method around an element. -/
def enclosingMethod? (m : Model) (e : Element) : Option Element :=
  m.methodFrom? (m.size + 1) (m.containerOf? e)

/-- The declaration that owns the code of an element: the method around a block or variable, the
element itself otherwise. -/
def ownerOf (m : Model) (e : Element) : Element :=
  if e.isLocal then (m.enclosingMethod? e).getD e else e

/-- The file declares an element of this kind and qualified name. -/
def hasDeclaration (m : Model) (kind : ElementKind) (qualifiedName : String) : Bool :=
  m.elements.any fun e => e.kind == kind && e.qualifiedName == qualifiedName

/-- The names of the classes and methods directly inside an element. -/
def memberNames (m : Model) (e : Element) : List String :=
  (m.elements.toList.filter fun c =>
    c.container == some e.index && (c.kind == .classDecl || c.kind == .methodDecl)).map (·.name)

end Model

end Lineage
