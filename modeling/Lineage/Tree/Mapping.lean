import Std.Data.TreeMap
import Lineage.Score
import Lineage.Tree.Basic

/-!
Correspondences between the nodes of two trees, kept in both directions and keyed by node identity.
`add` overwrites: the last pair of a node counts in each direction.
-/

namespace Lineage

/-- A correspondence from nodes of one tree to nodes of another. -/
structure NodeMapping where
  forward : Std.TreeMap Nat Tree
  backward : Std.TreeMap Nat Tree

namespace NodeMapping

/-- The correspondence without pairs. -/
def empty : NodeMapping := ⟨{}, {}⟩

/-- The number of nodes that have a counterpart. -/
def size (m : NodeMapping) : Nat := m.forward.size

/-- Pairs two nodes. -/
def add (m : NodeMapping) (src dst : Tree) : NodeMapping :=
  ⟨m.forward.insert src.id dst, m.backward.insert dst.id src⟩

/-- The counterpart of a node of the first tree. -/
def mapped? (m : NodeMapping) (src : Tree) : Option Tree := m.forward[src.id]?

/-- The node of the first tree has a counterpart. -/
def hasSrc (m : NodeMapping) (src : Tree) : Bool := m.forward.contains src.id

/-- The node of the second tree is a counterpart. -/
def hasDst (m : NodeMapping) (dst : Tree) : Bool := m.backward.contains dst.id

/-- How many occurrences of nodes in a subtree of the first tree have a counterpart. -/
def matchedIn (m : NodeMapping) (t : Tree) : Nat := t.preorder.countP m.hasSrc

/-- The matched share of the nodes of a subtree of the first tree. -/
def coverage {α : Type} [Score α] (m : NodeMapping) (t : Tree) : α :=
  Score.ratio (m.matchedIn t) t.size

end NodeMapping

end Lineage
