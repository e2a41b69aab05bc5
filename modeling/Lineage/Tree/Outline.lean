import Lineage.Tree.Basic

/-!
Outlines of syntax trees, and the trees they grow into.

In an outline a node is either a node of its own or an operator. Operators are interned: all places
where an operator occurs share the node that was made for it last. Nodes are made from left to
right, children before their parent, so a parent sees the operator nodes that its last descendants
have made. A node without lines of its own stands on the first line of its parent.
-/

namespace Lineage

/-- A syntax tree whose nodes have no identity yet. -/
inductive Outline where
  | node (label value : String) (lines : Option LineRange) (children : List Outline)
  | interned (label : String)

namespace Outline

mutual

/-- The number of levels. -/
def height : Outline → Nat
  | node _ _ _ children => 1 + heights children
  | interned _ => 1

/-- The number of levels of the highest outline. -/
def heights : List Outline → Nat
  | [] => 0
  | o :: os => max o.height (heights os)

end

mutual

/-- Some node has a label and value with a property. -/
def any (p : String → String → Bool) : Outline → Bool
  | node label value _ children => p label value || anyOf p children
  | interned _ => false

/-- Some node of the outlines has a label and value with a property. -/
def anyOf (p : String → String → Bool) : List Outline → Bool
  | [] => false
  | o :: os => o.any p || anyOf p os

end

/-- What the making of nodes keeps track of: how many there are, and the latest node of each
operator. -/
structure Nursery where
  count : Nat
  operators : List (String × Tree)

namespace Nursery

/-- No nodes yet. -/
def empty : Nursery := ⟨0, []⟩

/-- The latest node of an operator. -/
def operator? (n : Nursery) (label : String) : Option Tree := n.operators.lookup label

/-- Makes a node. -/
def make (n : Nursery) (label value : String) (lines : LineRange) (children : List Tree) :
    Tree × Nursery :=
  (Tree.node n.count label value lines children, ⟨n.count + 1, n.operators⟩)

/-- Makes a new node for an operator. -/
def renew (n : Nursery) (label : String) (line : Int) : Nursery :=
  let (t, n) := n.make label "" ⟨line, line⟩ []
  ⟨n.count, (label, t) :: n.operators.filter (·.1 != label)⟩

end Nursery

/-- A child of a node under construction: a finished tree, or an operator to be looked up when the
node is made. -/
inductive Shoot where
  | tree (t : Tree)
  | operator (label : String)

/-- The tree of a child. -/
def Shoot.tree? (n : Nursery) : Shoot → Option Tree
  | tree t => some t
  | operator label => n.operator? label

mutual

/-- Makes the nodes of an outline. `line` is the first line of the parent. -/
def grow (line : Int) : Outline → Nursery → Shoot × Nursery
  | node label value lines children, n =>
    let lines := lines.getD ⟨line, line⟩
    let (shoots, n) := growAll lines.first children n
    let (t, n) := n.make label value lines (shoots.filterMap (·.tree? n))
    (.tree t, n)
  | interned label, n => (.operator label, n.renew label line)

/-- Makes the nodes of outlines from left to right. -/
def growAll (line : Int) : List Outline → Nursery → List Shoot × Nursery
  | [], n => ([], n)
  | o :: os, n =>
    let (shoot, n) := o.grow line n
    let (shoots, n) := growAll line os n
    (shoot :: shoots, n)

end

/-- The tree of an outline whose parent starts on a line. -/
def tree? (line : Int) (o : Outline) : Option Tree :=
  let (shoot, n) := o.grow line .empty
  shoot.tree? n

end Outline

end Lineage
